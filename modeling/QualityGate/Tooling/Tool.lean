/-
The wrapped tools: their programs, arguments and sentences, and how a tool's answer becomes the
result of its check.

A tool passes when it exits with code 0.  The coverage tool is judged by the percentage in its report
instead, and a linter's exit code of 16 or more is an error of the linter itself.
-/
import QualityGate.Check.Result
import QualityGate.Config.Basic
import QualityGate.Path
import QualityGate.Text.Utf8
import QualityGate.Tooling.Coverage

namespace QualityGate

/-- What a program left when it ended; it has no exit code when a signal ended it. -/
structure ToolAnswer where
  code : Option Int
  stdout : String
  stderr : String
  deriving DecidableEq

namespace ToolAnswer

/-- What is kept of the bytes that a program wrote: the text that they encode, with a replacement character
where they encode none. -/
def ofBytes (code : Option Int) (stdout stderr : List UInt8) : ToolAnswer :=
  ⟨code, String.ofList (Text.decodeLossy stdout), String.ofList (Text.decodeLossy stderr)⟩

/-- The program ended with code 0. -/
def succeeded (a : ToolAnswer) : Bool :=
  a.code = some 0

end ToolAnswer

/-- The start of a program in a directory. -/
structure ToolCall where
  program : String
  arguments : List String
  directory : Path
  deriving DecidableEq

/-- Starts programs; the text says why one could not be started. -/
abbrev ToolRunner := ToolCall → Except String ToolAnswer

/-- The wrapped tools. -/
inductive Tool where
  | black
  | isort
  | pylint
  | ruff
  | mypy
  | bandit
  | coverage
  deriving DecidableEq

namespace Tool

/-- The tools in the order in which they run. -/
def all : List Tool :=
  [.black, .isort, .pylint, .ruff, .mypy, .bandit, .coverage]

/-- The name of the tool's check. -/
def checkName : Tool → String
  | .black => "Code Formatting (Black)"
  | .isort => "Import Sorting (isort)"
  | .pylint => "Code Linting (Pylint)"
  | .ruff => "Code Linting (Ruff)"
  | .mypy => "Type Checking (mypy)"
  | .bandit => "Security Check (Bandit)"
  | .coverage => "Test Coverage"

/-- The program that is started. -/
def program : Tool → String
  | .black => "black"
  | .isort => "isort"
  | .pylint => "pylint"
  | .ruff => "ruff"
  | .mypy => "mypy"
  | .bandit => "bandit"
  | .coverage => "pytest"

/-- The arguments of a run over directories. -/
def arguments (tool : Tool) (dirs : List String) (minCoverage : Nat) : List String :=
  match tool with
  | .black => "--check" :: dirs
  | .isort => "--check-only" :: "--diff" :: dirs
  | .ruff => "check" :: dirs
  | .bandit => "-r" :: dirs
  | .pylint | .mypy => dirs
  | .coverage =>
    ["--cov=" ++ joinList dirs, "--cov-report=term", "--cov-fail-under", minCoverage.repr]

/-- The sentence of a pass and the header of a failure. -/
def sentences : Tool → String × String
  | .black => ("All code is properly formatted.", "Files need formatting:")
  | .isort => ("All imports are properly sorted.", "Imports need sorting:")
  | .pylint => ("All code passes linting checks.", "Linting issues found:")
  | .ruff => ("All code passes Ruff checks.", "Ruff issues found:")
  | .mypy => ("All code passes type checking.", "Type checking issues found:")
  | .bandit => ("No security issues found.", "Security issues found:")
  | .coverage => ("", "")

/-- The configuration asks for the tool. -/
def enabled (tool : Tool) (config : Config) : Bool :=
  match tool with
  | .ruff => config.general.checkRuff
  | .mypy => config.general.checkMypy
  | .bandit => config.general.checkBandit
  | _ => true

/-- The details, followed by what the program wrote to its error stream, if anything. -/
def withErrors (details : String) (answer : ToolAnswer) : String :=
  if answer.stderr = "" then details else details ++ "\nErrors:\n" ++ answer.stderr

/-- The result of the coverage check. -/
def coverageResult (answer : ToolAnswer) (min : Nat) : CheckResult :=
  match Coverage.percentage? answer.stdout with
  | some p =>
    let start := "Test coverage is " ++ p.repr ++ "%, which "
    if min ≤ p then
      ⟨coverage.checkName, .passed, start ++ "meets the minimum requirement of " ++ min.repr ++ "%."⟩
    else
      ⟨coverage.checkName, .failed,
        start ++ "is below the minimum requirement of " ++ min.repr ++ "%.\n" ++ answer.stdout⟩
  | none =>
    ⟨coverage.checkName, .failed,
      withErrors ("Failed to determine test coverage.\n" ++ answer.stdout) answer⟩

/-- The linter itself failed. -/
def brokeDown (tool : Tool) (answer : ToolAnswer) : Bool :=
  tool = .pylint && match answer.code with
    | some code => 16 ≤ code
    | none => false

/-- The result that a tool's answer gives. -/
def evaluate (tool : Tool) (answer : ToolAnswer) (minCoverage : Nat) : CheckResult :=
  if tool = .coverage then coverageResult answer minCoverage
  else if answer.succeeded then ⟨tool.checkName, .passed, tool.sentences.1⟩
  else if tool.brokeDown answer then
    ⟨tool.checkName, .failed, "Linting failed with an error:\n" ++ answer.stderr⟩
  else
    ⟨tool.checkName, .failed, withErrors (tool.sentences.2 ++ "\n" ++ answer.stdout) answer⟩

/-- What is said of a program that could not be started. -/
def notStarted (program reason : String) : String :=
  "\x60" ++ program ++ "\x60 could not be run: " ++ reason

end Tool

end QualityGate
