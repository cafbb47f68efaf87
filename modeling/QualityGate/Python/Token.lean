/-
Tokens of Python source, and the state that a scan of the text carries.

What a place of the text means depends on what can follow there: line ends and indentation count only
where a statement can end or a block can start or end, and a quote starts a string only where an
operand can stand.  A reader says what it is ready for, and the scan answers with the token.
-/
import QualityGate.Python.Tree
import QualityGate.Text.Identifier

namespace QualityGate.Python

/-- What a reader is ready for besides words, numbers and operators. -/
structure Ready where
  newline : Bool
  indent : Bool
  dedent : Bool
  close : Bool
  string : Bool
  handler : Bool

namespace Ready

/-- Ready for words, numbers and operators only. -/
def plain : Ready := ⟨false, false, false, false, false, false⟩

/-- Ready for an operand. -/
def operand : Ready := { plain with string := true }

/-- Ready for a closing bracket. -/
def closing : Ready := { plain with close := true }

/-- Ready for an operand or a closing bracket. -/
def operandOrClosing : Ready := { plain with string := true, close := true }

/-- Ready for the end of a statement. -/
def ending : Ready := { plain with newline := true }

/-- Ready for what comes behind a colon that opens a suite. -/
def suite : Ready := { plain with newline := true, indent := true, string := true }

/-- Ready for a statement, or for the end of the block that it would stand in. -/
def statement (inBlock : Bool) : Ready := { plain with dedent := inBlock, string := true }

/-- Ready for an operand too. -/
def orOperand (r : Ready) : Ready := { r with string := true }

end Ready

/-- How a string goes on behind its opening quotes. -/
structure Delimiter where
  quote : Char
  triple : Bool
  format : Bool
  raw : Bool
  bytes : Bool
  deriving DecidableEq

/-- A token. -/
inductive Token where
  | endOfText
  | newline
  | indent
  | dedent
  | stringStart (delimiter : Delimiter)
  | word
  | number
  | operator
  | conversion
  | unknown
  deriving DecidableEq

/-- The state of a scan: the length of the whole text, the text ahead, the place, the indentations of
the open blocks, whether the latest string is a format string, the open brackets with their rows, the
row of the latest token and of the first token of the current clause. -/
structure Scan where
  size : Nat
  rest : List Char
  point : Point
  indents : List Nat
  inFormat : Bool
  openers : List (Char × Nat)
  lastRow : Nat
  clauseRow : Nat

/-- A token with its place and text, the extra leaves before it, and the state behind it. -/
structure Lexeme where
  token : Token
  first : Point
  last : Point
  text : String
  extras : List Tree
  after : Scan

namespace Point

/-- The place behind a character. -/
def next (p : Point) (c : Char) : Point :=
  if c = '\n' then ⟨p.row + 1, 0⟩ else ⟨p.row, p.column + 1⟩

/-- The place behind a text. -/
def behind (p : Point) (s : List Char) : Point :=
  s.foldl next p

end Point

namespace Scan

/-- The state at the start of a text. -/
def ofText (s : List Char) : Scan :=
  ⟨s.length, s, ⟨0, 0⟩, [0], false, [], 0, 0⟩

/-- The state behind the next `n` characters. -/
def drop (s : Scan) (n : Nat) : Scan :=
  { s with rest := s.rest.drop n, point := s.point.behind (s.rest.take n) }

/-- The indentation of the innermost open block. -/
def indent (s : Scan) : Nat :=
  s.indents.headD 0

end Scan

namespace Lexeme

/-- The lexeme is the word. -/
def isWord (l : Lexeme) (w : String) : Bool :=
  l.token = .word && l.text = w

/-- The lexeme is the operator. -/
def isOperator (l : Lexeme) (op : String) : Bool :=
  l.token = .operator && l.text = op

/-- The lexeme as a leaf, behind its extra leaves. -/
def leaf (l : Lexeme) (k : Kind) : List Tree :=
  l.extras ++ [.node k .other l.first l.last l.text []]

end Lexeme

end QualityGate.Python
