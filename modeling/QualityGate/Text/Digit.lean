/-
Decimal digits: the Unicode general category `Nd`, and the ten ASCII digits among them, which are
the only ones that a number is read from.
-/
import QualityGate.Text.DigitTable
import QualityGate.Text.Ranges

namespace QualityGate.Text

/-- The ten ASCII digits. -/
def isAsciiDigit (c : Char) : Bool :=
  '0' ≤ c && c ≤ '9'

/-- The Unicode general category `Nd`. -/
def isDigit (c : Char) : Bool :=
  isAsciiDigit c || inRanges digitRanges c.toNat

/-- The digit's value; meant for ASCII digits. -/
def digitValue (c : Char) : Nat :=
  c.toNat - '0'.toNat

/-- The number that a run of ASCII digits denotes, most significant digit first. -/
def natOfDigits (s : List Char) : Nat :=
  s.foldl (fun n c => 10 * n + digitValue c) 0

/-- Reads a non-empty run of ASCII digits. -/
def readNat? (s : List Char) : Option Nat :=
  if s.isEmpty || !s.all isAsciiDigit then none else some (natOfDigits s)

theorem isDigit_of_isAsciiDigit {c : Char} (h : isAsciiDigit c = true) : isDigit c = true := by
  simp [isDigit, h]

end QualityGate.Text
