/-
Blanks, comments, keys and strings of TOML documents.

A reader of this kind takes the characters ahead and gives what it read with the characters behind it.
-/
import QualityGate.Json.Reader
import QualityGate.Toml.Value

namespace QualityGate.Toml

/-- What was read, and the characters behind it. -/
abbrev Read (α : Type) := Option (α × List Char)

/-- Blanks inside a line. -/
def isSpace (c : Char) : Bool :=
  c = ' ' || c = '\t'

/-- The characters behind the blanks of a line. -/
def skipSpace (s : List Char) : List Char :=
  s.dropWhile isSpace

/-- What stands behind a line end. -/
def afterNewline? : List Char → Option (List Char)
  | '\n' :: rest => some rest
  | '\r' :: '\n' :: rest => some rest
  | _ => none

/-- A character that can stand in a comment. -/
def isCommentChar (c : Char) : Bool :=
  c = '\t' || (0x20 ≤ c.toNat && c.toNat ≠ 0x7f)

/-- The characters behind a comment, if there is one. -/
def skipComment (s : List Char) : List Char :=
  match s with
  | '#' :: rest => rest.dropWhile isCommentChar
  | _ => s

/-- The characters behind blanks, comments and line ends, at most `bound` of them. -/
def skipLinesWithin : Nat → List Char → List Char
  | 0, s => s
  | bound + 1, s =>
    let s := skipComment (skipSpace s)
    match afterNewline? s with
    | some rest => skipLinesWithin bound rest
    | none => s

/-- The characters behind blanks, comments and line ends. -/
def skipLines (s : List Char) : List Char :=
  skipLinesWithin (s.length + 1) s

/-! ### Strings -/

/-- A character that stands for itself in a string on one line. -/
def isStringChar (quote c : Char) : Bool :=
  c ≠ quote && isCommentChar c

/-- The number that hexadecimal digits denote, and the characters behind them. -/
def readHex? : Nat → Nat → List Char → Read Nat
  | 0, value, s => some (value, s)
  | _ + 1, _, [] => none
  | count + 1, value, c :: s =>
    match Json.hexValue? c with
    | some d => readHex? count (16 * value + d) s
    | none => none

/-- The character with the number that hexadecimal digits denote. -/
def readCodePoint? (count : Nat) (s : List Char) : Read Char :=
  match readHex? count 0 s with
  | some (n, rest) => if h : n.isValidChar then some (Char.ofNatAux n h, rest) else none
  | none => none

/-- The character that an escape stands for, behind its backslash. -/
def readEscape? : List Char → Read Char
  | 'b' :: s => some ('\x08', s)
  | 't' :: s => some ('\t', s)
  | 'n' :: s => some ('\n', s)
  | 'f' :: s => some ('\x0c', s)
  | 'r' :: s => some ('\r', s)
  | '\"' :: s => some ('\"', s)
  | '\\' :: s => some ('\\', s)
  | 'u' :: s => readCodePoint? 4 s
  | 'U' :: s => readCodePoint? 8 s
  | _ => none

/-- The blanks and line ends behind a backslash, where a line end can have a return. -/
def skipJoined : Nat → List Char → List Char
  | 0, s => s
  | bound + 1, s =>
    let s := skipSpace s
    match afterNewline? s with
    | some rest => skipJoined bound rest
    | none => s

/-- The rest of a string on one line, up to its closing quote; at most `bound` characters. -/
def readLineString? (quote : Char) (escapes : Bool) : Nat → List Char → Read (List Char)
  | 0, _ => none
  | _ + 1, [] => none
  | bound + 1, c :: s =>
    if c = quote then some ([], s)
    else if c = '\\' ∧ escapes then
      match readEscape? s with
      | some (e, rest) => (readLineString? quote escapes bound rest).map fun r => (e :: r.1, r.2)
      | none => none
    else if isStringChar quote c then
      (readLineString? quote escapes bound s).map fun r => (c :: r.1, r.2)
    else none

/-- The rest of a string on several lines, up to its closing quotes; at most `bound` characters.  Up
to two quotes before the closing ones belong to the string. -/
def readLongString? (quote : Char) (escapes : Bool) : Nat → List Char → Read (List Char)
  | 0, _ => none
  | _ + 1, [] => none
  | bound + 1, c :: s =>
    let goOn (d : Char) (rest : List Char) : Read (List Char) :=
      (readLongString? quote escapes bound rest).map fun r => (d :: r.1, r.2)
    if c = quote then
      let run := ((c :: s).takeWhile (· = quote)).length
      if run < 3 then goOn c s
      else
        let inside := min (run - 3) 2
        some (List.replicate inside quote, (c :: s).drop (inside + 3))
    else if c = '\\' ∧ escapes then
      match afterNewline? (skipSpace s) with
      | some rest => readLongString? quote escapes bound (skipJoined (rest.length + 1) rest)
      | none =>
        match readEscape? s with
        | some (e, rest) => goOn e rest
        | none => none
    else
      match afterNewline? (c :: s) with
      | some rest => goOn '\n' rest
      | none => if isStringChar quote c then goOn c s else none

/-- A string of any of the four kinds. -/
def readString? (s : List Char) : Read String :=
  let long (quote : Char) (rest : List Char) : Read (List Char) :=
    readLongString? quote (quote = '\"') (rest.length + 1) ((afterNewline? rest).getD rest)
  let result :=
    match s with
    | '\"' :: '\"' :: '\"' :: rest => long '\"' rest
    | '\'' :: '\'' :: '\'' :: rest => long '\'' rest
    | '\"' :: rest => readLineString? '\"' true (rest.length + 1) rest
    | '\'' :: rest => readLineString? '\'' false (rest.length + 1) rest
    | _ => none
  result.map fun r => (String.ofList r.1, r.2)

/-! ### Keys -/

/-- A character of a bare key. -/
def isKeyChar (c : Char) : Bool :=
  Text.isAsciiDigit c || ('a' ≤ c && c ≤ 'z') || ('A' ≤ c && c ≤ 'Z') || c = '_' || c = '-'

/-- One part of a key. -/
def readKeyPart? (s : List Char) : Read String :=
  match s with
  | '\"' :: rest =>
    (readLineString? '\"' true (rest.length + 1) rest).map fun r => (String.ofList r.1, r.2)
  | '\'' :: rest =>
    (readLineString? '\'' false (rest.length + 1) rest).map fun r => (String.ofList r.1, r.2)
  | _ =>
    match s.takeWhile isKeyChar with
    | [] => none
    | name => some (String.ofList name, s.dropWhile isKeyChar)

/-- The parts of a key, with points between them; at most `bound` parts. -/
def readKeyWithin? : Nat → List Char → Read (List String)
  | 0, _ => none
  | bound + 1, s =>
    match readKeyPart? (skipSpace s) with
    | none => none
    | some (part, rest) =>
      match skipSpace rest with
      | '.' :: more => (readKeyWithin? bound more).map fun r => (part :: r.1, r.2)
      | behind => some ([part], behind)

/-- The greatest depth of a document. -/
def depthLimit : Nat := 80

/-- A key, blanks around it skipped.  A key has fewer parts than the depth limit. -/
def readKey? (s : List Char) : Read (List String) :=
  readKeyWithin? (depthLimit - 1) s

end QualityGate.Toml
