/-
The coverage percentage in a test report: on the first row `TOTAL`, after two numbers, a number with
a percent sign.  Blanks between them can be line ends, and digits are taken in the Unicode sense; only
ASCII digits denote a percentage, and only up to `2 ^ 32 - 1`.
-/
import QualityGate.Text.Blank
import QualityGate.Text.Cut
import QualityGate.Text.Digit

namespace QualityGate.Coverage

/-- What follows a non-empty run of characters of the class, with the run. -/
def run? (class? : Char → Bool) (s : List Char) : Option (List Char × List Char) :=
  match s.takeWhile class? with
  | [] => none
  | run => some (run, s.dropWhile class?)

/-- The digits before the percent sign, when the text starts with a total row. -/
def rowDigits? (s : List Char) : Option (List Char) := do
  let s ← Text.after? "TOTAL".toList s
  let (_, s) ← run? Text.isBlank s
  let (_, s) ← run? Text.isDigit s
  let (_, s) ← run? Text.isBlank s
  let (_, s) ← run? Text.isDigit s
  let (_, s) ← run? Text.isBlank s
  let (digits, s) ← run? Text.isDigit s
  if s.head? = some '%' then some digits else none

/-- The digits before the percent sign of the first total row. -/
def digits? : List Char → Option (List Char)
  | [] => none
  | c :: s =>
    match rowDigits? (c :: s) with
    | some digits => some digits
    | none => digits? s

/-- The percentage that a report states. -/
def percentage? (report : String) : Option Nat := do
  let digits ← digits? report.toList
  let n ← Text.readNat? digits
  if n < Nat.pow 2 32 then some n else none

end QualityGate.Coverage
