/-
Running the command.

A run is a function of the words, the environment, the disk, the tools and the time.  It gives what is
written to the two streams, the exit code, and the disk behind it, which differs at most in the saved
report.  The results are shown first and the report is saved afterwards, so a report that cannot be
saved does not hide them.
-/
import QualityGate.CommandLine.Help
import QualityGate.Config.Discovery
import QualityGate.Gate.Pipeline
import QualityGate.Report.Save
import QualityGate.Report.Summary

namespace QualityGate

/-- Everything that a run depends on. -/
structure Invocation where
  words : List String
  environment : Environment
  disk : Disk
  runner : ToolRunner
  terminal : Bool
  timestamp : String

/-- What a run leaves. -/
structure Answer where
  exitCode : Nat
  stdout : String
  stderr : String
  disk : Disk

namespace Answer

/-- The answer with text before what it writes to the error stream. -/
def withErrors (a : Answer) (text : String) : Answer :=
  { a with stderr := text ++ a.stderr }

/-- The answer with text before what it writes. -/
def withOutput (a : Answer) (text : String) : Answer :=
  { a with stdout := text ++ a.stdout }

end Answer

/-- Exit code of a run that came to its end. -/
def exitCodeOf (passed : Bool) : Nat :=
  if passed then 0 else 1

/-- A line of the program about itself. -/
def ownLine (text : String) : String :=
  Help.programName ++ ": " ++ text ++ "\n"

namespace Invocation

/-- The run ends in a failure. -/
def fail (i : Invocation) (cause : Failure) : Answer :=
  ⟨cause.exitCode, "", ownLine cause.message, i.disk⟩

/-- The run ends well, having written a text. -/
def say (i : Invocation) (text : String) : Answer :=
  ⟨0, text, "", i.disk⟩

/-- The path of a configuration in the environment. -/
def configVariable (i : Invocation) : Option String :=
  i.environment.get? Help.configVariable

/-- The project: the given directory, or the current one, without links. -/
def project (i : Invocation) (args : CheckArguments) : Except Failure Path := do
  let current := Disk.pathOf i.disk.current
  let path := (args.path.map current.join).getD current
  if i.disk.isDirectory path then (i.disk.canonical path).mapError (.io path)
  else throw (.argument ("not a directory: " ++ path.text))

/-- What the configuration file says, or the defaults where there is none. -/
def configuration (i : Invocation) (given : Option Path) (project : Path) : Config.Reading × String :=
  match Config.locate i.disk given project with
  | .error cause => (⟨[], .error cause⟩, "")
  | .ok none => (⟨[], .ok .standard⟩, "")
  | .ok (some path) =>
    let reading := Config.load i.disk path
    let warnings := reading.unknown.map fun key =>
      ownLine ("warning: " ++ Config.unrecognized path key ++ " (ignored)")
    (reading, String.join warnings)

/-- What is written for the results in the wanted format. -/
def shown (i : Invocation) (args : CheckArguments) (summary : RunSummary) (report : Report) : String :=
  match args.output with
  | .json => report.document
  | .text =>
    match args.colourMode.resolve i.environment i.terminal with
    | .always => Summary.text true summary.results
    | .never => Summary.text false summary.results
    | .auto => Summary.text i.environment.takesColour summary.results

/-- Saves the report, if it is to be saved. -/
def saved (i : Invocation) (args : CheckArguments) (summary : RunSummary) (report : Report) : Answer :=
  match args.json with
  | none => ⟨exitCodeOf summary.passed, "", "", i.disk⟩
  | some path =>
    match report.save i.disk path with
    | .error cause => i.fail cause
    | .ok disk =>
      let said :=
        match args.output with
        | .text => "Results saved as JSON to " ++ path.text ++ "\n"
        | .json => ""
      ⟨exitCodeOf summary.passed, said, "", disk⟩

/-- Runs the checks over a project. -/
def check (i : Invocation) (args : CheckArguments) (project : Path) (config : Config) : Answer :=
  let pipeline : Pipeline := ⟨project, config, some i.runner⟩
  match (pipeline.run i.disk).value with
  | .error cause => ⟨cause.exitCode, "", ownLine ("pipeline error: " ++ cause.message), i.disk⟩
  | .ok summary =>
    let report := Report.ofResults summary.results project config.options i.timestamp
    (i.saved args summary report).withOutput (i.shown args summary report)

/-- Carries out the command. -/
def perform (i : Invocation) (given : Option Path) (args : CheckArguments) : Answer :=
  match i.project args with
  | .error cause => i.fail cause
  | .ok project =>
    let (reading, warnings) := i.configuration given project
    match reading.config with
    | .error cause => (i.fail cause).withErrors warnings
    | .ok config => (i.check args project (args.override config)).withErrors warnings

/-- The answer where no command is carried out. -/
def interrupt (i : Invocation) : Interruption → Answer
  | .help level => i.say (Help.text level i.configVariable)
  | .version level => i.say (Help.version level)
  | .fault cause => ⟨2, "", Help.faultText cause, i.disk⟩

/-- Runs the command. -/
def run (i : Invocation) : Answer :=
  match Arguments.parse i.words i.configVariable with
  | .error interruption => i.interrupt interruption
  | .ok ⟨_, none⟩ => i.say (Help.text .root i.configVariable ++ "\n")
  | .ok ⟨config, some args⟩ => i.perform config args

end Invocation

end QualityGate
