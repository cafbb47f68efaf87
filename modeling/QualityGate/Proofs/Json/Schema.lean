/-
Schemas of JSON values.

A schema is what it accepts.  The ones here stand for the keywords of a schema document that constrain
the type of a value, the texts of a string, the least number, the items of an array, and the members of
an object with those that have to be there.

A number literal denotes a rational number (`value?`), however long it is; a literal without a sign
denotes one that is not negative (`exists_value?_of_isUnsigned`).
-/
import Mathlib.Algebra.Order.Field.Power
import Mathlib.Algebra.Order.Field.Rat
import Mathlib.Tactic.Positivity
import QualityGate.Proofs.Json.Numeral

namespace QualityGate.Json

open Text

/-! ### The number that a literal denotes -/

/-- The exponent of ten behind the letter, which may have a sign; zero without a letter. -/
def tenExponent : List Char → ℤ
  | _ :: '-' :: digits => -natOfDigits digits
  | _ :: '+' :: digits => natOfDigits digits
  | _ :: digits => natOfDigits digits
  | [] => 0

/-- The number that a literal without a sign denotes. -/
def unsignedValue? (literal : List Char) : Option ℚ := do
  let (whole, rest) ← readWhole? literal
  let (fraction, rest) ← readFraction? rest
  let (exponent, rest) ← readExponent? rest
  let decimals := fraction.drop 1
  if rest = [] then
    some ((natOfDigits (whole ++ decimals) : ℚ) * 10 ^ (tenExponent exponent - decimals.length))
  else none

/-- The number that a literal denotes. -/
def value? (literal : List Char) : Option ℚ :=
  match literal with
  | '-' :: rest => (unsignedValue? rest).map fun q => -q
  | _ => unsignedValue? literal

/-- A literal without a sign has the value that is read without one. -/
theorem value?_of_isUnsigned {s : List Char} (h : IsUnsigned s) : value? s = unsignedValue? s := by
  obtain ⟨whole, fraction, exponent, rfl, hwhole, -⟩ := h
  obtain ⟨c, more, rfl, hc⟩ := hwhole.exists_cons
  rw [List.cons_append, value?]
  rintro rest heq
  obtain ⟨rfl, -⟩ := List.cons_eq_cons.1 heq
  cases hc

/-- The parts of a literal without a sign denote its number. -/
theorem unsignedValue?_parts {whole fraction exponent : List Char} (hwhole : IsWhole whole)
    (hfraction : IsFraction fraction) (hexponent : IsExponent exponent) :
    unsignedValue? (whole ++ (fraction ++ exponent)) =
      some ((natOfDigits (whole ++ fraction.drop 1) : ℚ) *
        10 ^ (tenExponent exponent - (fraction.drop 1).length)) := by
  -- the readers of the parts are used with nothing behind the number
  have hend : EndsNumber [] := nofun
  obtain ⟨hdigits, hpoint⟩ := head?_power_append hexponent.isPower hend
  have hread := readExponent?_power hexponent.isPower hend
  rw [List.append_nil] at hdigits hpoint hread
  rw [unsignedValue?, readWhole?_whole hwhole (endsDigits_fraction_append hfraction hdigits)]
  simp only [Option.bind_eq_bind, Option.bind_some, readFraction?_fraction hfraction hdigits hpoint,
    hread, if_true]

/-- A literal without a sign denotes a number that is not negative. -/
theorem exists_value?_of_isUnsigned {s : List Char} (h : IsUnsigned s) :
    ∃ q, value? s = some q ∧ 0 ≤ q := by
  rw [value?_of_isUnsigned h]
  obtain ⟨whole, fraction, exponent, rfl, hwhole, hfraction, hexponent⟩ := h
  exact ⟨_, unsignedValue?_parts hwhole hfraction hexponent, by positivity⟩

/-- The text of a natural number denotes it. -/
theorem value?_repr (n : Nat) : value? n.repr.toList = some (n : ℚ) := by
  have hwhole := isWhole_toDigits n
  have hparts := unsignedValue?_parts hwhole (.inl rfl) (.inl rfl)
  rw [List.append_nil, List.append_nil] at hparts
  rw [Nat.toList_repr, value?_of_isUnsigned (isUnsigned_whole hwhole), hparts, List.drop_nil,
    List.append_nil, natOfDigits_toDigits]
  simp [tenExponent]

/-! ### Schemas -/

/-- A schema: which values it accepts. -/
abbrev Schema := Json → Bool

namespace Schema

/-- No value at all. -/
def nothing : Schema :=
  fun _ => false

/-- Any string. -/
def anyString : Schema
  | .string _ => true
  | _ => false

/-- One of some texts. -/
def oneOf (texts : List String) : Schema :=
  fun value => value.string?.any texts.contains

/-- The text has the form of a template, in which a zero stands for any digit. -/
def fits : List Char → List Char → Bool
  | [], [] => true
  | t :: ts, c :: cs => (if t = '0' then isAsciiDigit c else c = t) && fits ts cs
  | _, _ => false

/-- A string of the form of a template. -/
def form (template : String) : Schema :=
  fun value => value.string?.any fun text => fits template.toList text.toList

/-- A number from a least one on. -/
def numberFrom (least : ℚ) : Schema
  | .number literal => (value? literal.toList).any fun q => least ≤ q
  | _ => false

/-- A whole number from a least one on. -/
def integerFrom (least : ℚ) : Schema
  | .number literal => (value? literal.toList).any fun q => q.isInt && least ≤ q
  | _ => false

/-- An array of which each item is accepted. -/
def arrayOf (items : Schema) : Schema
  | .array values => values.all items
  | _ => false

/-- An object that has the required members, and of which each member is accepted by the schema for its
name, or else by the one for all others. -/
def objectWith (required : List String) (properties : List (String × Schema)) (others : Schema) : Schema
  | .object members =>
    (required.all fun name => members.any fun m => m.1 = some name) &&
      members.all fun m => ((m.1.bind fun name => properties.lookup name).getD others) m.2
  | _ => false

/-- The text is a JSON text whose value is accepted. -/
def acceptsText (schema : Schema) (text : List Char) : Bool :=
  (parse? text).any schema

/-! ### Values of the printer -/

@[simp] theorem anyString_ofString (text : String) : anyString (ofString text) = true := rfl

@[simp] theorem oneOf_ofString (texts : List String) (text : String) :
    oneOf texts (ofString text) = texts.contains text := rfl

@[simp] theorem form_ofString (template text : String) :
    form template (ofString text) = fits template.toList text.toList := rfl

@[simp] theorem integerFrom_ofNat (n : Nat) : integerFrom 0 (ofNat n) = true := by
  rw [ofNat, integerFrom, value?_repr]
  simp [Rat.isInt]

@[simp] theorem arrayOf_ofStrings (texts : List String) : arrayOf anyString (ofStrings texts) = true := by
  rw [ofStrings, arrayOf, List.all_map]
  exact List.all_eq_true.2 fun _ _ => rfl

@[simp] theorem objectWith_ofMembers (required : List String) (properties : List (String × Schema))
    (others : Schema) (members : List (String × Json)) :
    objectWith required properties others (ofMembers members) =
      ((required.all fun name => members.any fun m => m.1 = name) &&
        members.all fun m => ((properties.lookup m.1).getD others) m.2) := by
  simp [objectWith, ofMembers, List.all_map, List.any_map, Function.comp_def]

/-- A literal without a sign is a number from zero on. -/
theorem numberFrom_of_isUnsigned {literal : String} (h : IsUnsigned literal.toList) :
    numberFrom 0 (.number literal) = true := by
  obtain ⟨q, hvalue, hq⟩ := exists_value?_of_isUnsigned h
  rw [numberFrom, hvalue]
  exact decide_eq_true hq

end Schema

end QualityGate.Json
