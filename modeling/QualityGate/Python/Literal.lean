/-
Strings: their segments, escapes, and the parts of format strings.

Between its quotes a string is cut into segments.  A segment of plain characters ends before an
escape, before a brace of a format string, and before the closing quotes.  A string with single quotes
ends at a line end, unless the line end is the first character of a segment.
-/
import QualityGate.Python.Sequence

namespace QualityGate.Python

/-- How the text of a string goes on. -/
inductive Segment where
  | content (length : Nat)
  | finish (length : Nat)
  | special
  | broken
  deriving DecidableEq

/-- Number of the characters that a raw string takes together behind a backslash. -/
def rawEscape (d : Delimiter) (s : List Char) : Nat :=
  let n :=
    match s with
    | c :: _ => if c = d.quote ∨ c = '\\' then 1 else 0
    | [] => 0
  match s.drop n with
  | '\r' :: '\n' :: _ => n + 2
  | '\r' :: _ | '\n' :: _ => n + 1
  | _ => n

/-- The segment at a quote, behind `n` characters of content. -/
def quoteSegment (d : Delimiter) (has : Bool) (n : Nat) (behind : List Char) : Segment :=
  if d.triple then
    match behind with
    | a :: b :: _ =>
      if a = d.quote then
        if b = d.quote then (if has then .content n else .finish (n + 3)) else .content (n + 2)
      else .content (n + 1)
    | [a] => if a = d.quote then .content (n + 2) else .content (n + 1)
    | [] => .content (n + 1)
  else if has then .content n
  else .finish (n + 1)

/-- The segment that goes on with the text, behind `n` characters.  `skip` characters are still to be
taken together with those before them, and `has` tells whether there is content already. -/
def segmentFrom (d : Delimiter) : Nat → Bool → Nat → List Char → Segment
  | _, _, _, [] => .broken
  | skip + 1, has, n, _ :: cs => segmentFrom d skip has (n + 1) cs
  | 0, has, n, c :: cs =>
    if c = '\x00' then .broken
    else if d.format ∧ (c = '\x7b' ∨ c = '\x7d') then if has then .content n else .special
    else if c = '\\' then
      if d.raw then segmentFrom d (rawEscape d cs) has (n + 1) cs
      else if d.bytes ∧ (cs.head?.any fun e => e = 'N' || e = 'u' || e = 'U') then
        segmentFrom d 2 true (n + 1) cs
      else if has then .content n
      else .special
    else if c = d.quote then quoteSegment d has n cs
    else if c = '\n' ∧ has ∧ ¬ d.triple then .broken
    else segmentFrom d 0 true (n + 1) cs

/-- The next segment of a string. -/
def segment (d : Delimiter) (s : List Char) : Segment :=
  segmentFrom d 0 false 0 s

/-- A hexadecimal digit. -/
def isHex (c : Char) : Bool :=
  isDecimal c || ('a' ≤ c && c ≤ 'f') || ('A' ≤ c && c ≤ 'F')

/-- The next `n` characters are hexadecimal digits. -/
def hexAhead (n : Nat) (s : List Char) : Bool :=
  (s.take n).length = n && (s.take n).all isHex

/-- Length of the escape behind a backslash; zero if the backslash stands for itself. -/
def escapeLength (s : List Char) : Nat :=
  match s with
  | 'u' :: rest => if hexAhead 4 rest then 5 else 0
  | 'U' :: rest => if hexAhead 8 rest then 9 else 0
  | 'x' :: rest => if hexAhead 2 rest then 3 else 0
  | 'N' :: '\x7b' :: rest =>
    let name := rest.takeWhile (· ≠ '\x7d')
    if name ≠ [] ∧ (rest.drop name.length).head? = some '\x7d' then name.length + 3 else 0
  | '\r' :: '\n' :: _ => 2
  | c :: _ =>
    if isDecimal c then ((s.take 3).takeWhile isDecimal).length
    else if "\n'\"abfrntv\\".toList.contains c then 1
    else 0
  | [] => 0

/-- Takes the next `n` characters as a leaf. -/
def takeChars (k : Kind) (n : Nat) : Reader Pieces := do
  let s ← get
  let after := s.drop n
  set { after with lastRow := after.point.row }
  return [.node k .other s.point after.point (String.ofList (s.rest.take n)) []]

/-- What a format string asks for behind an expression: the text of a layout, with parts of its own. -/
def formatLayout (self : Grammar) : Reader Pieces := do
  let colon ← takeChars .mark 1
  let rest ← repeated do
    let s ← get
    let s := s.drop (s.rest.takeWhile isGap).length
    set s
    match s.rest with
    | '\x7b' :: _ => return (← self .formatPart, true)
    | '\x7d' :: _ => return ([], false)
    | _ =>
      match (s.rest.takeWhile fun c => c ≠ '\x7b' && c ≠ '\x7d' && c ≠ '\n').length with
      | 0 => unexpected (lexeme .closing s)
      | n => return (← takeChars .phrase n, true)
  return Pieces.gather .phrase (colon ++ rest)

/-- A part of a format string in braces: an expression, then perhaps an equals sign, a conversion and
a layout. -/
def formatPart (self : Grammar) : Reader Pieces := do
  let s ← get
  let brace := cutLexeme .operator 1 [] s
  let opening ← openBracket brace '\x7d'
  let value ← expressionsOrYield self .operand .closing
  let l ← peek .closing
  let equals ← if l.isOperator "=" then take l .mark else pure []
  let l ← peek .closing
  let conversion ← if l.token = .conversion then take l .mark else pure []
  let l ← peek .closing
  let layout ←
    if l.token = .operator ∧ l.text.toList.head? = some ':' then do
      set ((← get).drop ((← get).rest.takeWhile isGap).length)
      formatLayout self
    else pure []
  let closing ← closeBracket .closing "\x7d"
  return Pieces.gather .phrase (opening ++ value ++ equals ++ conversion ++ layout ++ closing)

/-- The inside of a string and its closing quotes. -/
def stringRest (self : Grammar) (d : Delimiter) (row : Nat) : Reader Pieces :=
  repeated do
    let s ← get
    match d.format, s.rest with
    | true, '\x7b' :: '\x7b' :: _ | true, '\x7d' :: '\x7d' :: _ => return (← takeChars .phrase 2, true)
    | _, _ =>
      match segment d s.rest with
      | .content n => return (← takeChars .phrase n, true)
      | .finish n =>
        let quotes ← takeChars .mark n
        modify fun s => { s with inFormat := false }
        return (quotes, false)
      | .special =>
        match s.rest with
        | '\\' :: rest => return (← takeChars .phrase (1 + escapeLength rest), true)
        | '\x7b' :: _ => return (← self .formatPart, true)
        | _ => failAt .error s.point.row
      | .broken => failAt .error row

/-- A string whose opening quotes are the given token. -/
def stringLiteral (self : Grammar) (l : Lexeme) (d : Delimiter) : Reader Pieces := do
  let opening ← take l .stringStart
  let rest ← stringRest self d l.first.row
  return Pieces.gather .string (opening ++ rest)

/-- One string, or several that stand side by side. -/
def strings (self : Grammar) (l : Lexeme) (d : Delimiter) (follow : Ready) : Reader Pieces := do
  let first ← stringLiteral self l d
  let others ← repeated do
    let l ← peek follow.orOperand
    match l.token with
    | .stringStart d => return (← stringLiteral self l d, true)
    | _ => return ([], false)
  return if others = [] then first else Pieces.gather .concatenatedString (first ++ others)

end QualityGate.Python
