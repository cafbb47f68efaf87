/-
Line ends and indentation.

Blanks, line ends and comments before a token decide whether a statement or a block ends there.  The
scan stops at the first character of the next token and tells whether a line end was passed, how far
the last line is indented (a tab counts eight, a return or a form feed starts afresh), and how far the
first passed comment was indented.  A block ends where a line is indented less than the block, but not
before comments that are indented as far as the block.
-/
import QualityGate.Python.Token

namespace QualityGate.Python

/-- What stands before a token. -/
structure Layout where
  rest : List Char
  point : Point
  lineEnd : Bool
  indent : Nat
  comment : Option Nat

namespace Layout

/-- Reads on from the given layout.  Comments are passed only if asked for, and only behind a line
end; before one they end the scan without an answer, as does a backslash that joins no lines. -/
def scan (comments : Bool) : Bool → List Char → Layout → Option Layout
  | _, [], l => some { l with rest := [], lineEnd := true, indent := 0 }
  | true, c :: cs, l =>
    scan comments (c ≠ '\n' && c ≠ '\x00') cs { l with point := l.point.next c, indent := 0 }
  | false, '\\' :: '\n' :: cs, l => scan comments false cs { l with point := l.point.next '\n' }
  | false, '\\' :: '\r' :: '\n' :: cs, l => scan comments false cs { l with point := l.point.next '\n' }
  | false, ['\\'], l => some { l with rest := [], lineEnd := true, indent := 0 }
  | false, ['\\', '\r'], l => some { l with rest := [], lineEnd := true, indent := 0 }
  | false, '\\' :: _, _ => none
  | false, c :: cs, l =>
    let l' := { l with point := l.point.next c }
    if c = '\n' then scan comments false cs { l' with lineEnd := true, indent := 0 }
    else if c = ' ' then scan comments false cs { l' with indent := l.indent + 1 }
    else if c = '\t' then scan comments false cs { l' with indent := l.indent + 8 }
    else if c = '\r' ∨ c = '\x0c' then scan comments false cs { l' with indent := 0 }
    else if c = '#' ∧ comments then
      if l.lineEnd then
        scan comments true cs { l' with comment := some (l.comment.getD l.indent), indent := 0 }
      else none
    else some { l with rest := c :: cs }

end Layout

/-- Letters that can stand before the quotes of a string. -/
def isStringLetter (c : Char) : Bool :=
  "fFrRbBuU".toList.contains c

/-- The quotes that open a string: the quote, whether it is tripled, and the number of characters. -/
def openingQuotes? : List Char → Option (Char × Bool × Nat)
  | '\'' :: '\'' :: '\'' :: _ => some ('\'', true, 3)
  | '\"' :: '\"' :: '\"' :: _ => some ('\"', true, 3)
  | '\'' :: _ => some ('\'', false, 1)
  | '\"' :: _ => some ('\"', false, 1)
  | '\x60' :: _ => some ('\x60', false, 1)
  | _ => none

/-- The start of a string, with the number of its characters. -/
def stringStart? (s : List Char) : Option (Delimiter × Nat) :=
  let letters := s.takeWhile isStringLetter
  let has (a b : Char) : Bool := letters.contains a || letters.contains b
  (openingQuotes? (s.dropWhile isStringLetter)).map fun (quote, triple, n) =>
    (⟨quote, triple, has 'f' 'F', has 'r' 'R', has 'b' 'B'⟩, letters.length + n)

/-- The next character is a quote. -/
def quoteAhead (s : List Char) : Bool :=
  match s with
  | c :: _ => c = '\"' || c = '\'' || c = '\x60'
  | [] => false

/-- The innermost block ends before the layout's line. -/
def blockEnds (ready : Ready) (s : Scan) (l : Layout) : Bool :=
  (ready.dedent || (!ready.newline && !(ready.string && quoteAhead l.rest) && !ready.close)) &&
    l.indent < s.indent && !s.inFormat && l.comment.all fun k => k < s.indent

/-- The token that line ends, indentation or quotes make, if the reader is ready for it. -/
def layoutLexeme? (ready : Ready) (extras : List Tree) (s : Scan) : Option Lexeme :=
  let comments := ready.indent || ready.dedent || ready.newline || ready.handler
  let empty (token : Token) (after : Scan) : Lexeme := ⟨token, s.point, s.point, "", extras, after⟩
  match Layout.scan comments false s.rest ⟨s.rest, s.point, false, 0, none⟩ with
  | none => none
  | some l =>
    if l.lineEnd && ready.indent && s.indent < l.indent then
      some (empty .indent { s with indents := l.indent :: s.indents })
    else if l.lineEnd && blockEnds ready s l then
      some (empty .dedent { s with indents := s.indents.tail })
    else if l.lineEnd && ready.newline then some (empty .newline s)
    else if ready.string && l.comment.isNone then
      (stringStart? l.rest).map fun (delimiter, n) =>
        let after := { s with rest := l.rest, point := l.point }.drop n
        ⟨.stringStart delimiter, l.point, after.point, String.ofList (l.rest.take n), extras,
          { after with inFormat := delimiter.format }⟩
    else none

end QualityGate.Python
