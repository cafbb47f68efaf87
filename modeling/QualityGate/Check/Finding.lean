/-
Findings: problems that an analysis found in a file.

A finding is shown as its path, its line if it has one, and its message; a finding about a definition
that has no message shows the definition instead.
-/
import QualityGate.Failure
import QualityGate.Check.Result

namespace QualityGate

/-- What a finding can be about. -/
inductive ElementKind where
  | module
  | classDef
  | function
  | asyncFunction
  deriving DecidableEq

/-- The kind as it is shown. -/
def ElementKind.label : ElementKind → String
  | .module => "module"
  | .classDef => "class"
  | .function => "function"
  | .asyncFunction => "async function"

/-- The definition that a finding is about; its name can be unknown. -/
structure Element where
  kind : ElementKind
  name : Option String
  deriving DecidableEq

/-- The definition as it is shown; a module has no name. -/
def Element.label (e : Element) : String :=
  match e.kind, e.name with
  | .module, _ | _, none => e.kind.label
  | kind, some name => kind.label ++ " '" ++ name ++ "'"

/-- One problem in one file. -/
structure Finding where
  path : Path
  line : Option Nat
  element : Option Element
  message : String
  deriving DecidableEq

namespace Finding

/-- A finding that is not about a definition. -/
def ofMessage (path : Path) (line : Option Nat) (message : String) : Finding :=
  ⟨path, line, none, message⟩

/-- A finding that says no more than which definition it is about. -/
def ofElement (path : Path) (line : Nat) (kind : ElementKind) (name : String) : Finding :=
  ⟨path, some line, some ⟨kind, some name⟩, ""⟩

/-- The file is no valid Python. -/
def syntaxError (path : Path) (message : String) : Finding :=
  ofMessage path none ("Syntax error: " ++ message)

/-- The file cannot be read. -/
def ioError (path : Path) (cause : IoError) : Finding :=
  ofMessage path none ("Error: " ++ cause.message)

/-- The finding as it is shown. -/
def display (f : Finding) : String :=
  let place := f.path.text ++
    match f.line with
    | some line => ":" ++ line.repr
    | none => ""
  place ++ " - " ++
    match f.element with
    | some e => if f.message = "" then e.label else f.message
    | none => f.message

end Finding

/-- The single result of an analysis: passed without findings, else the header and one line for
each finding. -/
def aggregate (name header pass : String) (findings : List Finding) : CheckResult :=
  match findings with
  | [] => ⟨name, .passed, pass⟩
  | _ => ⟨name, .failed, header ++ String.join (findings.map fun f => "\n- " ++ f.display)⟩

end QualityGate
