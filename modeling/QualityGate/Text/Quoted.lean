/-
Text shown between double quotes, so that every character can be told apart: the usual escapes, and
`\u{..}` for a character without a visible form of its own.
-/
import QualityGate.Text.PrintableTable
import QualityGate.Text.Ranges

namespace QualityGate.Text

/-- The character has a visible form of its own. -/
def isPrintable (c : Char) : Bool :=
  if c.toNat < 0x7f then 0x20 ≤ c.toNat
  else inRanges visibleRanges c.toNat && !inRanges graphemeExtendRanges c.toNat

/-- Hexadecimal digits of a number, in lower case and without leading zeros. -/
def hexDigits (n : Nat) : List Char :=
  Nat.toDigits 16 n

/-- One character as it is shown between double quotes. -/
def quotedChar (c : Char) : List Char :=
  if c == '\x00' then ['\\', '0']
  else if c == '\t' then ['\\', 't']
  else if c == '\r' then ['\\', 'r']
  else if c == '\n' then ['\\', 'n']
  else if c == '\"' then ['\\', '\"']
  else if c == '\\' then ['\\', '\\']
  else if isPrintable c then [c]
  else "\\u\x7b".toList ++ hexDigits c.toNat ++ ['\x7d']

/-- The text between double quotes. -/
def quoted (s : String) : String :=
  String.ofList ('\"' :: s.toList.flatMap quotedChar ++ ['\"'])

end QualityGate.Text
