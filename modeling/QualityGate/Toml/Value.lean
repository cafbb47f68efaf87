/-
Values of a TOML document.

A date or a time is kept as its text in one spelling.  The entries of a table are in the order of
their keys, each key once.
-/
import QualityGate.Decimal.Binary64

namespace QualityGate

/-- A TOML value. -/
inductive Toml where
  | string (text : String)
  | integer (value : Int)
  | float (value : Binary64)
  | boolean (value : Bool)
  | datetime (text : String)
  | array (items : List Toml)
  | table (entries : List (String × Toml))
  deriving Inhabited

/-- A TOML table as a document has it. -/
abbrev TomlTable := List (String × Toml)

namespace Toml

/-- The text of a string, a date or a time. -/
def text? : Toml → Option String
  | .string text => some text
  | .datetime text => some text
  | _ => none

end Toml

end QualityGate
