/-
Checks.

A check turns what it is given into results.  Problems of the project are results too; a failure says
that the check was given something that it cannot work with, and a breakdown that it did not finish.

A check of sources looks at one file at a time and knows nothing of the others; one of modules reports
a file that cannot be read or is no valid Python as a finding of its own.
-/
import QualityGate.Check.Context
import QualityGate.Check.Finding
import QualityGate.Python.Module

namespace QualityGate

/-- How the run of checks ends. -/
inductive Outcome where
  | results (results : List CheckResult)
  | failure (cause : Failure)
  | breakdown

/-- A check: its name, and what it does. -/
structure Check where
  name : String
  run : Context → Traced Outcome

namespace Context

/-- The tree of a Python file, or the finding that says why there is none. -/
def readModule (ctx : Context) (path : Path) : Except Finding Python.Tree :=
  match ctx.disk.readText path with
  | .error cause => .error (.ioError (ctx.shown path) cause)
  | .ok text =>
    let tree := Python.Tree.ofText text
    match tree.invalidLine? with
    | none => .ok tree
    | some line =>
      let name := String.ofList (path.fileName?.getD [])
      .error (.syntaxError (ctx.shown path) (Python.Tree.invalidMessage name line))

end Context

namespace Check

/-- A check that works only for a project with an absolute path, and has a single result. -/
def ofProject (name : String) (run : Context → Path → Traced CheckResult) : Check where
  name := name
  run ctx :=
    match ctx.requireProject with
    | .error cause => .pure (.failure cause)
    | .ok project => do
      let result ← run ctx project
      return .results [result]

/-- A check that reports what an analysis finds in each source. -/
def ofSources (name header pass : String) (analyse : Context → Path → List Finding) : Check :=
  ofProject name fun ctx _ => do
    let files ← ctx.sources
    return aggregate name header pass (files.flatMap (analyse ctx))

/-- What an analysis of modules, which are shown under a path, finds in a file. -/
def inModule (analyse : Path → Python.Tree → List Finding) (ctx : Context) (path : Path) :
    List Finding :=
  match ctx.readModule path with
  | .ok tree => analyse (ctx.shown path) tree
  | .error finding => [finding]

end Check

end QualityGate
