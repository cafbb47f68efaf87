/-
The checks that run a wrapped tool.

A tool that the configuration switches off is not started, nor one that has no directory to look at,
nor any tool without a runner.  All others are started once, in the directory of the project.
-/
import QualityGate.Check.Basic

namespace QualityGate.Check

/-- What is said where there is no runner. -/
def noRunner : String := "no tool runner configured"

/-- Why a tool is not started, if it is not. -/
def skipReason? (tool : Tool) (ctx : Context) : Option String :=
  if !tool.enabled ctx.config then some "disabled by configuration"
  else if ctx.sourceDirs = [] then some "No source directories found to check."
  else none

/-- The start of a tool over the source directories. -/
def callOf (tool : Tool) (ctx : Context) (project : Path) : ToolCall where
  program := tool.program
  arguments := tool.arguments (ctx.sourceDirs.map Path.text) ctx.config.general.minTestCoverage
  directory := project

/-- Calls a program. -/
def callWith (runner : ToolRunner) (call : ToolCall) : Traced (Except String ToolAnswer) :=
  ⟨[.call call], runner call⟩

/-- The result of a tool that is started. -/
def runTool (tool : Tool) (runner : ToolRunner) (ctx : Context) (project : Path) :
    Traced CheckResult := do
  match ← callWith runner (callOf tool ctx project) with
  | .ok answer => return tool.evaluate answer ctx.config.general.minTestCoverage
  | .error reason =>
    Traced.warn [tool.program ++ " could not be run: " ++ reason]
    return ⟨tool.checkName, .failed, Tool.notStarted tool.program reason⟩

/-- The check of a tool. -/
def ofTool (tool : Tool) (runner : Option ToolRunner) : Check :=
  ofProject tool.checkName fun ctx project =>
    match skipReason? tool ctx, runner with
    | some reason, _ => .pure ⟨tool.checkName, .skipped, reason⟩
    | none, none => .pure ⟨tool.checkName, .skipped, noRunner⟩
    | none, some runner => runTool tool runner ctx project

end QualityGate.Check
