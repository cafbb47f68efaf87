/-
Characters of Python names: a name starts with a character of `XID_Start` or an underscore and goes
on with characters of `XID_Continue`.
-/
import QualityGate.Text.IdentifierTable
import QualityGate.Text.Ranges

namespace QualityGate.Text

/-- ASCII letters. -/
def isAsciiLetter (c : Char) : Bool :=
  ('a' ≤ c && c ≤ 'z') || ('A' ≤ c && c ≤ 'Z')

/-- ASCII letters, digits and the underscore. -/
def isWordChar (c : Char) : Bool :=
  isAsciiLetter c || ('0' ≤ c && c ≤ '9') || c == '_'

/-- A name can start with the character. -/
def isIdentifierStart (c : Char) : Bool :=
  isAsciiLetter c || c == '_' || inRanges identifierStartRanges c.toNat

/-- A name can go on with the character. -/
def isIdentifierContinue (c : Char) : Bool :=
  isWordChar c || inRanges identifierContinueRanges c.toNat

end QualityGate.Text
