/-
The pipeline: the fixed chain of checks over the source directories that are there, and the verdict.
-/
import QualityGate.Check.Dependency
import QualityGate.Check.Docstring
import QualityGate.Check.Naming
import QualityGate.Gate.Chain

namespace QualityGate

/-- A project with its configuration and perhaps a runner for tools. -/
structure Pipeline where
  project : Path
  config : Config
  runner : Option ToolRunner

/-- A run that has come to its end. -/
structure RunSummary where
  results : List CheckResult
  sourceDirs : List Path
  passed : Bool

/-- Number of results of each status. -/
def RunSummary.counts (s : RunSummary) : Tally :=
  Tally.ofResults s.results

namespace Pipeline

/-- What the check of docstrings leaves out in a pipeline. -/
def docstringScope : Check.DocstringScope :=
  ⟨true, true⟩

/-- The chain of all checks in their fixed order. -/
def chain (p : Pipeline) : Chain :=
  Tool.all.map (fun tool => Check.ofTool tool p.runner) ++
    [Check.naming, Check.fileLength p.config.general.maxFileLength,
      Check.functionLength p.config.general.maxFunctionLength, Check.docstring docstringScope,
      Check.dependency p.runner]

/-- The declared source directory is there. -/
def hasSourceDir (p : Pipeline) (d : Disk) (dir : String) : Bool :=
  d.isDirectory (p.project.join ⟨dir⟩)

/-- The declared source directories that are there. -/
def sourceDirs (p : Pipeline) (d : Disk) : List Path :=
  (p.config.paths.srcDirs.filter (p.hasSourceDir d)).map Path.mk

/-- What is said of the source directories: which are missing, and that none is there. -/
def sourceWarnings (p : Pipeline) (d : Disk) : List String :=
  ((p.config.paths.srcDirs.filter fun dir => !p.hasSourceDir d dir).map fun dir =>
    "source directory not found, skipping: " ++ (p.project.join ⟨dir⟩).text) ++
  if p.sourceDirs d = [] then ["no source directories found to check"] else []

/-- What the checks are given. -/
def context (p : Pipeline) (d : Disk) : Context :=
  ⟨p.project, p.sourceDirs d, p.config, d⟩

/-- The line that announces a run. -/
def opening (p : Pipeline) (chain : Chain) : String :=
  "running " ++ chain.length.repr ++ " checks on " ++ p.project.text

/-- The line that closes a run. -/
def closing (results : List CheckResult) : String :=
  let t := Tally.ofResults results
  "verdict: " ++ (Status.ofVerdict (verdict results)).label ++ " (" ++ t.passed.repr ++ " passed, " ++
    t.failed.repr ++ " failed, " ++ t.skipped.repr ++ " skipped)"

/-- Runs a chain over the project. -/
def runChain (p : Pipeline) (d : Disk) (chain : Chain) : Traced (Except Failure RunSummary) := do
  Traced.warn (p.sourceWarnings d)
  Traced.tell (.info (p.opening chain))
  match ← chain.execute (p.context d) with
  | .results results =>
    Traced.tell (.info (closing results))
    return .ok ⟨results, p.sourceDirs d, verdict results⟩
  | .failure cause =>
    Traced.warn ["pipeline aborted: " ++ cause.message]
    return .error cause
  | .breakdown =>
    Traced.warn ["pipeline aborted: check panicked"]
    return .error (.internal "check panicked")

/-- Runs all checks over the project. -/
def run (p : Pipeline) (d : Disk) : Traced (Except Failure RunSummary) :=
  p.runChain d p.chain

end Pipeline

end QualityGate
