/-
Letter case: the Unicode properties `Uppercase` and `Lowercase`, and lower-casing of a text.

Lower-casing maps each character on its own, with two exceptions of the standard: `İ` gives two
characters, and a capital sigma that ends a word (a cased character before it, none after it, with
case-ignorable characters passed over) gives the final form.
-/
import QualityGate.Text.CasingTable
import QualityGate.Text.Ranges

namespace QualityGate.Text

/-- The Unicode property `Uppercase`. -/
def isUpper (c : Char) : Bool :=
  ('A' ≤ c && c ≤ 'Z') || inSteppedRanges upperRanges c.toNat

/-- The Unicode property `Lowercase`. -/
def isLower (c : Char) : Bool :=
  ('a' ≤ c && c ≤ 'z') || inSteppedRanges lowerRanges c.toNat

/-- The Unicode property `Cased`. -/
def isCased (c : Char) : Bool :=
  isUpper c || isLower c || inRanges titleRanges c.toNat

/-- The Unicode property `Case_Ignorable`. -/
def isCaseIgnorable (c : Char) : Bool :=
  c == '\'' || c == '.' || c == ':' || c == '^' || c == '\x60' || inRanges caseIgnorableRanges c.toNat

/-- The character's simple lower-case form. -/
def lowerChar (c : Char) : Char :=
  let n := c.toNat
  if 'A' ≤ c ∧ c ≤ 'Z' then Char.ofNat (n + 32)
  else if n < 0x80 then c
  else
    match lowerMappings.find? fun m => m.1 ≤ n && n ≤ m.2.1 && (n - m.1) % m.2.2.1 == 0 with
    | some m => Char.ofNat (m.2.2.2 + (n - m.1))
    | none => c

/-- The first character that is not case-ignorable is cased. -/
def meetsCased (s : List Char) : Bool :=
  match s.dropWhile isCaseIgnorable with
  | [] => false
  | c :: _ => isCased c

/-- Lower-cases what follows `before`, which is held in reverse. -/
def lowerAfter (before : List Char) : List Char → List Char
  | [] => []
  | c :: rest =>
    let here :=
      if c == 'Σ' then
        if meetsCased before && !meetsCased rest then ['ς'] else ['σ']
      else if c == 'İ' then ['i', '\u0307']
      else [lowerChar c]
    here ++ lowerAfter (c :: before) rest

/-- The text in lower case. -/
def lower (s : List Char) : List Char :=
  lowerAfter [] s

/-- The string in lower case. -/
def lowered (s : String) : String :=
  String.ofList (lower s.toList)

end QualityGate.Text
