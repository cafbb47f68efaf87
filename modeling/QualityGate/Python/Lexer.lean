/-
Words, numbers and operators, and the extra leaves between tokens.

`lexeme` gives the next token for what a reader is ready for.  Blanks are skipped; a comment or a
joined line becomes an extra leaf, behind which the scan starts again.  Of the operators the longest
one counts, and a number goes as far as any spelling of a number does.
-/
import QualityGate.Python.Layout

namespace QualityGate.Python

/-- Blanks between tokens. -/
def isGap (c : Char) : Bool :=
  c = ' ' || ('\t' ≤ c && c ≤ '\r') || c = '\ufeff' || c = '\u2060' || c = '\u200b'

/-! ### Numbers -/

/-- An ASCII digit. -/
def isDecimal (c : Char) : Bool :=
  '0' ≤ c && c ≤ '9'

/-- Length of a run of digits with single underscores behind digits. -/
def decimalRun : Bool → List Char → Nat
  | _, [] => 0
  | afterDigit, c :: cs =>
    if isDecimal c then decimalRun true cs + 1
    else if c = '_' ∧ afterDigit then decimalRun false cs + 1
    else 0

/-- Length of a run of digits of a base with single underscores before digits. -/
def basedRun (digit : Char → Bool) : List Char → Nat
  | [] => 0
  | [c] => if digit c then 1 else 0
  | c :: d :: cs =>
    if digit c then basedRun digit (d :: cs) + 1
    else if c = '_' ∧ digit d then basedRun digit (d :: cs) + 1
    else 0

/-- Length of an exponent, zero if there is none. -/
def exponentRun (s : List Char) : Nat :=
  match s with
  | c :: rest =>
    if c = 'e' ∨ c = 'E' then
      match rest with
      | sign :: more =>
        if sign = '+' ∨ sign = '-' then
          match decimalRun false more with
          | 0 => 0
          | n => n + 2
        else
          match decimalRun false rest with
          | 0 => 0
          | n => n + 1
      | [] => 0
    else 0
  | [] => 0

/-- One if the text starts with one of the letters, zero otherwise. -/
def suffixRun (letters : List Char) (s : List Char) : Nat :=
  match s with
  | c :: _ => if letters.contains c then 1 else 0
  | [] => 0

/-- The digits of the base that a letter behind a zero announces. -/
def baseDigit? (letter : Char) : Option (Char → Bool) :=
  match letter with
  | 'x' | 'X' => some fun c => isDecimal c || ('a' ≤ c && c ≤ 'f') || ('A' ≤ c && c ≤ 'F')
  | 'o' | 'O' => some fun c => '0' ≤ c && c ≤ '7'
  | 'b' | 'B' => some fun c => c = '0' || c = '1'
  | _ => none

/-- Length of a number with a base letter, zero if there is none. -/
def basedLength (s : List Char) : Nat :=
  match s with
  | '0' :: letter :: rest =>
    match baseDigit? letter with
    | some digit =>
      match basedRun digit rest with
      | 0 => 0
      | n => 2 + n + suffixRun ['l', 'L'] (rest.drop n)
    | none => 0
  | _ => 0

/-- Length of a decimal number, zero if there is none. -/
def decimalLength (s : List Char) : Nat :=
  let whole := decimalRun false s
  let tail (n : Nat) : Nat :=
    let m := n + exponentRun (s.drop n)
    m + suffixRun ['j', 'J'] (s.drop m)
  match s.drop whole with
  | '.' :: rest =>
    let fraction := decimalRun false rest
    if whole = 0 ∧ fraction = 0 then 0 else tail (whole + 1 + fraction)
  | rest =>
    if whole = 0 then 0
    else if exponentRun rest ≠ 0 then tail whole
    else whole + suffixRun ['l', 'L', 'j', 'J'] rest

/-- Length of a number at the start of the text, zero if there is none. -/
def numberLength (s : List Char) : Nat :=
  max (basedLength s) (decimalLength s)

/-! ### Operators -/

/-- Operators of three characters. -/
def operators₃ : List String := ["**=", "//=", ">>=", "<<=", "..."]

/-- Operators of two characters. -/
def operators₂ : List String :=
  ["**", "//", ">>", "<<", "<=", ">=", "==", "!=", "<>", "->", ":=", "+=", "-=", "*=", "/=", "%=",
    "&=", "|=", "^=", "@="]

/-- Operators of one character. -/
def operators₁ : List Char := "+-*/%@&|^~<>()[]\x7b\x7d,:.;=".toList

/-- Length of the longest operator at the start of the text, zero if there is none. -/
def operatorLength (s : List Char) : Nat :=
  if operators₃.contains (String.ofList (s.take 3)) then 3
  else if operators₂.contains (String.ofList (s.take 2)) then 2
  else
    match s with
    | c :: _ => if operators₁.contains c then 1 else 0
    | [] => 0

/-! ### Lexemes -/

/-- Length of a word at the start of the text, zero if there is none. -/
def wordLength (s : List Char) : Nat :=
  match s with
  | c :: cs => if Text.isIdentifierStart c then 1 + (cs.takeWhile Text.isIdentifierContinue).length else 0
  | [] => 0

/-- The token of the next `n` characters. -/
def cutLexeme (token : Token) (n : Nat) (extras : List Tree) (s : Scan) : Lexeme :=
  let after := s.drop n
  ⟨token, s.point, after.point, String.ofList (s.rest.take n), extras, after⟩

/-- The token at a character that is no blank. -/
def plainLexeme (extras : List Tree) (s : Scan) : Lexeme :=
  match s.rest with
  | [] => cutLexeme .endOfText 0 extras s
  | '!' :: c :: _ =>
    if 'a' ≤ c ∧ c ≤ 'z' then cutLexeme .conversion 2 extras s
    else cutLexeme (if c = '=' then .operator else .unknown) 2 extras s
  | _ =>
    match wordLength s.rest, numberLength s.rest, operatorLength s.rest with
    | n + 1, _, _ => cutLexeme .word (n + 1) extras s
    | 0, n + 1, _ => cutLexeme .number (n + 1) extras s
    | 0, 0, n + 1 => cutLexeme .operator (n + 1) extras s
    | 0, 0, 0 => cutLexeme .unknown 1 extras s

/-- Length of a joined line end, zero if there is none. -/
def joinLength (s : List Char) : Nat :=
  match s with
  | '\\' :: '\r' :: '\n' :: _ => 3
  | '\\' :: '\n' :: _ => 2
  | ['\\'] => 1
  | _ => 0

/-- The extra leaf of the next `n` characters. -/
def extraLeaf (k : Kind) (n : Nat) (s : Scan) : Tree :=
  .node k .other s.point (s.drop n).point (String.ofList (s.rest.take n)) []

/-- The next token; at most `bound` extra leaves are read before it. -/
def lexemeWithin (ready : Ready) : Nat → List Tree → Scan → Lexeme
  | 0, extras, s => cutLexeme .unknown 0 extras s
  | bound + 1, extras, s =>
    match layoutLexeme? ready extras s with
    | some l => l
    | none =>
      let s := s.drop (s.rest.takeWhile isGap).length
      let comment := if s.rest.head? = some '#' then (s.rest.takeWhile (· ≠ '\n')).length else 0
      match comment, joinLength s.rest with
      | n + 1, _ => lexemeWithin ready bound (extras ++ [extraLeaf .comment (n + 1) s]) (s.drop (n + 1))
      | 0, n + 1 => lexemeWithin ready bound (extras ++ [extraLeaf .lineJoin (n + 1) s]) (s.drop (n + 1))
      | 0, 0 => plainLexeme extras s

/-- The next token for what a reader is ready for. -/
def lexeme (ready : Ready) (s : Scan) : Lexeme :=
  lexemeWithin ready (s.size + 1) [] s

end QualityGate.Python
