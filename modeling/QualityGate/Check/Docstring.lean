/-
The check of docstrings: every module, class and function has to open with one.

Private functions and files of tests can be left out; what is defined inside a private function is
checked all the same.
-/
import QualityGate.Check.Length

namespace QualityGate.Check

/-- What the check of docstrings leaves out. -/
structure DocstringScope where
  skipPrivate : Bool
  skipTests : Bool

/-- The name starts with an underscore and is not enclosed in double ones. -/
def isPrivateName (name : List Char) : Bool :=
  Text.startsWith ['_'] name &&
    !(Text.startsWith ['_', '_'] name && Text.endsWith ['_', '_'] name)

/-- A private function, which the scope leaves out. -/
def isLeftOut (scope : DocstringScope) (t : Python.Tree) : Bool :=
  scope.skipPrivate && t.kind = .functionDefinition && isPrivateName t.name.toList

/-- A definition without a docstring that the scope does not leave out. -/
def undocumented? (scope : DocstringScope) (shown : Path) (t : Python.Tree) : Option Finding :=
  if !isLeftOut scope t && !t.hasDocstring then
    some (.ofElement shown t.firstLine (kindOf t) t.name)
  else none

/-- The module and the definitions that have no docstring, in the order of the text. -/
def undocumented (scope : DocstringScope) (shown : Path) (tree : Python.Tree) : List Finding :=
  let inside := tree.definitions.filterMap (undocumented? scope shown)
  if tree.hasDocstring then inside else .ofElement shown 1 .module "" :: inside

/-- What is missing in a file, unless it is left out. -/
def undocumentedIn (scope : DocstringScope) (ctx : Context) (path : Path) : List Finding :=
  if scope.skipTests && isTestFile path then [] else inModule (undocumented scope) ctx path

/-- The check of docstrings. -/
def docstring (scope : DocstringScope) : Check :=
  ofSources CheckName.docstring "Missing docstrings found:"
    "All modules, classes, and functions have docstrings." (undocumentedIn scope)

end QualityGate.Check
