/-
The check of naming conventions.

Names are taken from the tree of a module: classes, functions, and the names that assignments bind.
In a file that is no valid Python they are searched in its text.  The name of the module itself is the
name of its file.
-/
import QualityGate.Analysis.TextScan
import QualityGate.Check.Basic
import QualityGate.Check.Name

namespace QualityGate

namespace Python.Tree

mutual

/-- The identifiers that a target of an assignment binds, those inside lists and tuples included. -/
def boundNames : Tree → List Tree
  | node k r p q s cs =>
    match k with
    | .identifier => [node k r p q s cs]
    | .patternList | .tuplePattern | .listPattern | .listSplatPattern => boundNamesAll cs
    | _ => []

/-- The identifiers that several targets bind. -/
def boundNamesAll : List Tree → List Tree
  | [] => []
  | t :: rest => (if t.isNamed then boundNames t else []) ++ boundNamesAll rest

end

/-- A name in its role, and the line on which it stands. -/
structure NameUse where
  role : Naming.Role
  name : String
  line : Nat

/-- The names that the node itself declares. -/
def declaredNames (t : Tree) : List NameUse :=
  match t.kind with
  | .classDefinition => [⟨.classDef, t.name, t.firstLine⟩]
  | .functionDefinition => [⟨.function, t.name, t.firstLine⟩]
  | .assignment =>
    match t.child? .left with
    | some target => (boundNames target).map fun n => ⟨.variable, n.text, n.firstLine⟩
    | none => []
  | _ => []

/-- The names that the node and the nodes below it declare, in the order of the text. -/
def allNames (t : Tree) : List NameUse :=
  t.visit.flatMap declaredNames

end Python.Tree

namespace Check

/-- The definition that a name in a role belongs to; an assigned name is no definition. -/
def elementOf? (role : Naming.Role) (name : String) : Option Element :=
  match role with
  | .module => some ⟨.module, some name⟩
  | .classDef => some ⟨.classDef, some name⟩
  | .function => some ⟨.function, some name⟩
  | .variable => none

/-- The finding for a name that breaks the convention of its role. -/
def misnamed? (shown : Path) (line : Option Nat) (role : Naming.Role) (name : String) :
    Option Finding :=
  (Naming.violation? role name).map fun message => ⟨shown, line, elementOf? role name, message⟩

/-- The names in a text that break a convention. -/
def misnamedInText (shown : Path) (text : List Char) : List Finding :=
  let tree := Python.Tree.ofText text
  if tree.isValid then
    tree.allNames.filterMap fun n => misnamed? shown (some n.line) n.role n.name
  else (TextScan.names text).filterMap fun n => misnamed? shown none n.1 n.2

/-- The names in a file, and the name of the file, that break a convention. -/
def misnamed (ctx : Context) (path : Path) : List Finding :=
  let shown := ctx.shown path
  let stem := String.ofList (path.stem?.getD [])
  (misnamed? shown none .module stem).toList ++
    match ctx.disk.readText path with
    | .ok text => misnamedInText shown text
    | .error cause => [.ioError shown cause]

/-- The check of naming conventions. -/
def naming : Check :=
  ofSources CheckName.naming "Naming convention issues found:" "All code follows naming conventions."
    misnamed

end Check

end QualityGate
