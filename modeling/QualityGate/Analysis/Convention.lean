/-
Naming conventions.

Module names and functions are written in snake case, classes in Pascal case, and assigned names in
snake case or, if they are constants, in upper case.  `breach?` says which convention a name breaks,
if any.  Whether an assigned name is taken for a constant only decides which convention it is blamed
with.
-/
import QualityGate.Text.Casing
import QualityGate.Text.Cut
import QualityGate.Text.Identifier

namespace QualityGate.Naming

/-- What a name stands for. -/
inductive Role where
  | module
  | classDef
  | function
  | variable
  deriving DecidableEq

/-- A convention that a name breaks. -/
inductive Breach where
  | moduleCase
  | classCase
  | functionCase
  | constantCase
  | variableCase
  deriving DecidableEq

/-- The breach as it is shown for a name. -/
def Breach.message (b : Breach) (name : String) : String :=
  let (subject, convention) :=
    match b with
    | .moduleCase => ("Module name", "snake_case")
    | .classCase => ("Class name", "PascalCase")
    | .functionCase => ("Function name", "snake_case")
    | .constantCase => ("Constant", "UPPER_CASE")
    | .variableCase => ("Variable", "snake_case")
  subject ++ " '" ++ name ++ "' does not follow " ++ convention ++ " convention"

/-! ### Shapes of names -/

/-- A small ASCII letter. -/
def isSmall (c : Char) : Bool :=
  'a' ≤ c && c ≤ 'z'

/-- A capital ASCII letter. -/
def isCapital (c : Char) : Bool :=
  'A' ≤ c && c ≤ 'Z'

/-- An ASCII digit. -/
def isNumeral (c : Char) : Bool :=
  '0' ≤ c && c ≤ '9'

/-- A small letter, then small letters, digits and underscores. -/
def isSnake : List Char → Bool
  | [] => false
  | c :: rest => isSmall c && rest.all fun d => isSmall d || isNumeral d || d == '_'

/-- A capital, then letters and digits. -/
def isPascal : List Char → Bool
  | [] => false
  | c :: rest => isCapital c && rest.all fun d => isSmall d || isCapital d || isNumeral d

/-- A capital, then capitals, digits and underscores. -/
def isConstant : List Char → Bool
  | [] => false
  | c :: rest => isCapital c && rest.all fun d => isCapital d || isNumeral d || d == '_'

/-- A callback of a visitor: `visit_` and the visited class. -/
def isVisitor (name : List Char) : Bool :=
  match Text.after? "visit_".toList name with
  | some rest => isPascal rest
  | none => false

/-- A snake-case name between double underscores. -/
def isDunder (name : List Char) : Bool :=
  match Text.after? ['_', '_'] name with
  | some rest => Text.endsWith ['_', '_'] rest && isSnake (rest.take (rest.length - 2))
  | none => false

/-- A single underscore, or a snake-case name behind one. -/
def isPrivateSnake : List Char → Bool
  | '_' :: rest => rest.isEmpty || isSnake rest
  | _ => false

/-- A name that a function can have. -/
def isFunctionName (name : List Char) : Bool :=
  isDunder name || isVisitor name || isPrivateSnake name || isSnake name

/-- A name that a module can have. -/
def isModuleName (name : List Char) : Bool :=
  (Text.startsWith ['_', '_'] name && Text.endsWith ['_', '_'] name) || isSnake name

/-- Some character is upper case and none is lower case. -/
def looksConstant (name : List Char) : Bool :=
  name.any Text.isUpper && !name.any Text.isLower

/-- Receivers and keywords, which are no assigned names. -/
def reserved : List String :=
  ["self", "cls", "True", "False", "None", "import", "from", "as", "class", "def", "for", "if",
    "return", "yield"]

/-- Words of prose that stand before an equals sign in comments and docstrings. -/
def proseWords : List String :=
  ["for", "which", "from", "class", "definition", "orchestrates", "contents", "names", "function",
    "methods", "module", "documentation"]

/-- A word of prose in any letter case. -/
def isProse (name : String) : Bool :=
  proseWords.contains (Text.lowered name)

/-- The convention that a name breaks in its role. -/
def breach? (role : Role) (name : String) : Option Breach :=
  let s := name.toList
  match role with
  | .module => if isModuleName s then none else some .moduleCase
  | .classDef => if isPascal s then none else some .classCase
  | .function => if isFunctionName s then none else some .functionCase
  | .variable =>
    if reserved.contains name || isProse name then none
    else if looksConstant s then if isConstant s then none else some .constantCase
    else if isFunctionName s then none else some .variableCase

/-- What is said of a name that breaks a convention. -/
def violation? (role : Role) (name : String) : Option String :=
  (breach? role name).map fun b => b.message name

end QualityGate.Naming
