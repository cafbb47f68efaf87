/-
What is asked of a tree: lines, names, docstrings, and whether it is valid.

Lines count from one.  The last line of a node is that of its last token; comments are no tokens, and
a token that ends at the start of a line ends on the line before.  A tree is invalid when a fault or a
refused statement stands anywhere in it, and the first such node in the order of the text tells where.
-/
import QualityGate.Python.Cursor
import QualityGate.Python.Source

namespace QualityGate.Python.Tree

/-! ### Lines -/

/-- The line on which the node starts. -/
def firstLine (t : Tree) : Nat :=
  t.first.row + 1

/-- The line on which the node's text ends. -/
def endLine (t : Tree) : Nat :=
  if t.last.column = 0 ∧ t.first.row < t.last.row then t.last.row else t.last.row + 1

/-- A token: a leaf that is no comment. -/
def isToken (t : Tree) : Bool :=
  t.children.isEmpty && t.kind ≠ .comment

/-- The line on which the last token of the node ends. -/
def lastLine (t : Tree) : Nat :=
  (t.visit.filter isToken).foldl (fun line leaf => max line leaf.endLine) t.firstLine

/-- Number of lines from the first to the last. -/
def span (t : Tree) : Nat :=
  t.lastLine - t.firstLine + 1

/-! ### Validity -/

/-- A fault, or a statement that is refused. -/
def isInvalid (t : Tree) : Bool :=
  match t.kind with
  | .error | .missing | .printStatement | .execStatement => true
  | _ => false

/-- The first invalid node in the order of the text. -/
def firstInvalid? (t : Tree) : Option Tree :=
  t.visit.find? isInvalid

/-- No node is invalid. -/
def isValid (t : Tree) : Bool :=
  t.firstInvalid?.isNone

/-- The line of the first invalid node. -/
def invalidLine? (t : Tree) : Option Nat :=
  t.firstInvalid?.map firstLine

/-- What is said of an invalid line of a file. -/
def invalidMessage (file : String) (line : Nat) : String :=
  "invalid syntax (" ++ file ++ ", line " ++ line.repr ++ ")"

/-! ### Definitions -/

/-- A class or a function definition. -/
def isDefinition (t : Tree) : Bool :=
  t.kind = .classDefinition || t.kind = .functionDefinition

/-- The name of a definition. -/
def name (t : Tree) : String :=
  ((t.child? .name).map text).getD ""

/-- The function definition starts with `async`. -/
def isAsync (t : Tree) : Bool :=
  t.children.head?.any fun c => c.kind = .asyncKeyword

/-- The class and function definitions in the order of the text. -/
def definitions (t : Tree) : List Tree :=
  t.visit.filter isDefinition

/-! ### Docstrings -/

/-- The first statement of a body, comments passed over. -/
def firstStatement? (t : Tree) : Option Tree :=
  t.namedChildren.find? fun c => c.kind ≠ .comment

/-- A string of text: neither a format string nor bytes. -/
def isPlainString (t : Tree) : Bool :=
  let opening := ((t.children.head?).map text).getD ""
  !opening.toList.any fun c => c = 'f' || c = 'F' || c = 'b' || c = 'B'

/-- A plain string, or several that stand side by side. -/
def isText (t : Tree) : Bool :=
  match t.kind with
  | .string => isPlainString t
  | .concatenatedString => t.namedChildren.all fun c => c.kind = .string && isPlainString c
  | _ => false

/-- A statement that is nothing but a string of text. -/
def isTextStatement (t : Tree) : Bool :=
  t.kind = .expressionStatement &&
    match t.namedChildren with
    | [value] => isText value
    | _ => false

/-- The module, or the body of the definition, opens with a docstring. -/
def hasDocstring (t : Tree) : Bool :=
  let body := if t.kind = .module then some t else t.child? .body
  (body.bind firstStatement?).any isTextStatement

end QualityGate.Python.Tree
