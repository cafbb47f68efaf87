/-
The checks of lengths: files by their lines, functions by the lines from the first to the last token.

The length of a function counts neither its decorators nor a comment behind it.  Functions inside
other definitions are checked too.
-/
import QualityGate.Analysis.Lines
import QualityGate.Check.Basic
import QualityGate.Check.Name

namespace QualityGate.Check

/-- The limit of a file's length where none is given. -/
def standardFileLimit : Nat := 300

/-- The limit of a function's length where none is given. -/
def standardFunctionLimit : Nat := 50

/-- A file that cannot be read or has too many lines. -/
def longFile (limit : Nat) (ctx : Context) (path : Path) : List Finding :=
  match ctx.disk.read path with
  | .error cause => [.ioError (ctx.shown path) cause]
  | .ok bytes =>
    let lines := countLines bytes
    if limit < lines then
      [.ofMessage (ctx.shown path) none (lines.repr ++ " lines (max " ++ limit.repr ++ ")")]
    else []

/-- The check of file lengths. -/
def fileLength (limit : Nat := standardFileLimit) : Check :=
  ofSources CheckName.fileLength
    ("Files exceeding the maximum length of " ++ limit.repr ++ " lines:")
    ("All files are under the maximum length of " ++ limit.repr ++ " lines.")
    (longFile limit)

/-- The kind of a definition. -/
def kindOf (t : Python.Tree) : ElementKind :=
  if t.kind = .classDefinition then .classDef
  else if t.isAsync then .asyncFunction
  else .function

/-- A definition of a function that has too many lines. -/
def longFunction? (limit : Nat) (shown : Path) (t : Python.Tree) : Option Finding :=
  if t.kind = .functionDefinition ∧ limit < t.span then
    some ⟨shown, some t.firstLine, some ⟨kindOf t, some t.name⟩,
      "function '" ++ t.name ++ "' is " ++ t.span.repr ++ " lines (max " ++ limit.repr ++ ")"⟩
  else none

/-- The check of function lengths. -/
def functionLength (limit : Nat := standardFunctionLimit) : Check :=
  ofSources CheckName.functionLength
    ("Functions exceeding the maximum length of " ++ limit.repr ++ " lines:")
    ("All functions are under " ++ limit.repr ++ " lines")
    (inModule fun shown tree => tree.visit.filterMap (longFunction? limit shown))

end QualityGate.Check
