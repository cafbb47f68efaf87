/-
The check of requirements: packages that requirement files name and of which a later version exists.

Requirement files can be anywhere below the project.  Without any the package tool is not asked; it is
asked once for all files.
-/
import QualityGate.Check.Name
import QualityGate.Check.ToolRun
import QualityGate.Tooling.Requirement

namespace QualityGate.Check

/-- The name of a requirement file. -/
def isRequirementFile (path : Path) : Bool :=
  path.fileName?.any fun name =>
    name = "requirements.txt".toList || Text.endsWith "-requirements.txt".toList name

/-- The question for outdated packages. -/
def outdatedCall (project : Path) : ToolCall where
  program := "pip"
  arguments := ["list", "--outdated", "--format=json"]
  directory := project

/-- The outdated packages, or what is said if they are not known. -/
def outdatedPackages (call : ToolCall) (answer : Except String ToolAnswer) :
    Except String (List OutdatedPackage) :=
  match answer with
  | .error reason => .error (Tool.notStarted call.program reason)
  | .ok answer =>
    if answer.succeeded then
      match OutdatedPackage.parse? answer.stdout with
      | some packages => .ok packages
      | none => .error ("Failed to parse pip output:\n" ++ answer.stdout)
    else .error ("Failed to check for outdated packages:\n" ++ answer.stderr)

/-- What is said of an outdated package that a file names. -/
def outdatedLine (shown : Path) (p : OutdatedPackage) : String :=
  "- " ++ shown.text ++ ": " ++ p.name ++ " (current: " ++ p.version ++ ", latest: " ++ p.latest ++ ")"

/-- What is said of a requirement file: its outdated packages, or why it cannot be read. -/
def outdatedIn (packages : List OutdatedPackage) (ctx : Context) (path : Path) : List String :=
  let shown := ctx.shown path
  match ctx.disk.readText path with
  | .error cause => ["- " ++ shown.text ++ ": Error: " ++ cause.message]
  | .ok text =>
    ((Text.lines text).filterMap requirementName?).filterMap fun name =>
      (OutdatedPackage.find? packages name).map (outdatedLine shown)

/-- The result from what is said of all files. -/
def dependencyResult (lines : List String) : CheckResult :=
  match lines with
  | [] => ⟨CheckName.dependency, .passed, "All dependencies are up-to-date."⟩
  | _ =>
    ⟨CheckName.dependency, .failed,
      "Outdated dependencies found:\n" ++ "\n".intercalate lines⟩

/-- The result for requirement files, from the answer of the package tool. -/
def runDependency (runner : ToolRunner) (ctx : Context) (project : Path) (files : List Path) :
    Traced CheckResult := do
  let call := outdatedCall project
  let answer ← callWith runner call
  match outdatedPackages call answer with
  | .error said => return ⟨CheckName.dependency, .failed, said⟩
  | .ok packages => return dependencyResult (files.flatMap (outdatedIn packages ctx))

/-- The check of requirements. -/
def dependency (runner : Option ToolRunner) : Check :=
  ofProject CheckName.dependency fun ctx project => do
    let listing := ctx.list isRequirementFile project
    Traced.warn listing.warnings
    match listing.files, runner with
    | [], _ => return ⟨CheckName.dependency, .skipped, "No requirements.txt files found."⟩
    | _, none => return ⟨CheckName.dependency, .skipped, noRunner⟩
    | files, some runner => runDependency runner ctx project files

end QualityGate.Check
