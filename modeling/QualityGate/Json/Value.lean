/-
JSON values.

A number is kept as its literal.  A string is absent where an escape names half of a surrogate pair
alone: such a text is well-formed JSON but denotes no string.  Members keep their order, and a name
may occur more than once.
-/

namespace QualityGate

/-- A JSON value. -/
inductive Json where
  | null
  | bool (value : Bool)
  | number (literal : String)
  | string (text : Option String)
  | array (items : List Json)
  | object (members : List (Option String × Json))
  deriving Inhabited

namespace Json

/-- A string value. -/
def ofString (text : String) : Json :=
  .string (some text)

/-- A number value. -/
def ofNat (n : Nat) : Json :=
  .number n.repr

/-- An array of strings. -/
def ofStrings (items : List String) : Json :=
  .array (items.map ofString)

/-- An object with the given members. -/
def ofMembers (members : List (String × Json)) : Json :=
  .object (members.map fun m => (some m.1, m.2))

/-- The string that the value denotes. -/
def string? : Json → Option String
  | .string text => text
  | _ => none

/-- The value of the first member of a name. -/
def member? (members : List (Option String × Json)) (name : String) : Option Json :=
  (members.find? fun m => m.1 = some name).map Prod.snd

end Json

end QualityGate
