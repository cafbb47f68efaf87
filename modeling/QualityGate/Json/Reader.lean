/-
Reading of JSON texts.

The reader takes exactly the texts of the standard.  It descends by a bound on the number of values
that are still to be read, which the length of the text always covers, and each function gives the
characters that it leaves.
-/
import QualityGate.Json.Value
import QualityGate.Text.Cut
import QualityGate.Text.Digit

namespace QualityGate.Json

/-- Blanks between the tokens of a JSON text. -/
def isSpace (c : Char) : Bool :=
  c = ' ' || c = '\n' || c = '\t' || c = '\r'

/-- The text after the blanks that it starts with. -/
def skipSpace (s : List Char) : List Char :=
  s.dropWhile isSpace

/-! ### Numbers -/

/-- A run of digits and what follows it, if the run is not empty. -/
def readDigits? (s : List Char) : Option (List Char × List Char) :=
  match s.takeWhile Text.isAsciiDigit with
  | [] => none
  | run => some (run, s.dropWhile Text.isAsciiDigit)

/-- The whole part of a number: a single zero, or digits that do not start with one. -/
def readWhole? (s : List Char) : Option (List Char × List Char) :=
  match s with
  | '0' :: rest =>
    match rest with
    | c :: _ => if Text.isAsciiDigit c then none else some (['0'], rest)
    | [] => some (['0'], rest)
  | _ => readDigits? s

/-- The fraction of a number, which may be missing. -/
def readFraction? (s : List Char) : Option (List Char × List Char) :=
  match s with
  | '.' :: rest => (readDigits? rest).map fun r => ('.' :: r.1, r.2)
  | _ => some ([], s)

/-- The exponent of a number, which may be missing. -/
def readExponent? (s : List Char) : Option (List Char × List Char) :=
  match s with
  | c :: rest =>
    if c = 'e' ∨ c = 'E' then
      match rest with
      | sign :: more =>
        if sign = '+' ∨ sign = '-' then
          (readDigits? more).map fun r => (c :: sign :: r.1, r.2)
        else (readDigits? rest).map fun r => (c :: r.1, r.2)
      | [] => none
    else some ([], s)
  | [] => some ([], s)

/-- A number without its sign. -/
def readUnsigned? (s : List Char) : Option (List Char × List Char) := do
  let (whole, s) ← readWhole? s
  let (fraction, s) ← readFraction? s
  let (exponent, s) ← readExponent? s
  return (whole ++ fraction ++ exponent, s)

/-- A number. -/
def readNumber? (s : List Char) : Option (List Char × List Char) :=
  match s with
  | '-' :: rest => (readUnsigned? rest).map fun r => ('-' :: r.1, r.2)
  | _ => readUnsigned? s

/-! ### Strings -/

/-- The value of a hexadecimal digit of either case. -/
def hexValue? (c : Char) : Option Nat :=
  if '0' ≤ c ∧ c ≤ '9' then some (c.toNat - '0'.toNat)
  else if 'a' ≤ c ∧ c ≤ 'f' then some (c.toNat - 'a'.toNat + 10)
  else if 'A' ≤ c ∧ c ≤ 'F' then some (c.toNat - 'A'.toNat + 10)
  else none

/-- The number that four hexadecimal digits denote. -/
def hexUnit? (a b c d : Char) : Option Nat := do
  return (((← hexValue? a) * 16 + (← hexValue? b)) * 16 + (← hexValue? c)) * 16 + (← hexValue? d)

/-- The character of a one-letter escape. -/
def shortEscape? (c : Char) : Option Char :=
  match c with
  | '\"' => some '\"'
  | '\\' => some '\\'
  | '/' => some '/'
  | 'b' => some '\x08'
  | 'f' => some '\x0c'
  | 'n' => some '\n'
  | 'r' => some '\r'
  | 't' => some '\t'
  | _ => none

/-- A string's characters: plain ones, and the 16-bit units that escapes name. -/
inductive Unit16 where
  | plain (c : Char)
  | escaped (n : Nat)
  deriving DecidableEq

/-- The characters up to the closing quote, and what follows it. -/
def readUnits? : List Char → Option (List Unit16 × List Char)
  | [] => none
  | '\"' :: rest => some ([], rest)
  | '\\' :: 'u' :: a :: b :: c :: d :: rest =>
    match hexUnit? a b c d, readUnits? rest with
    | some n, some r => some (.escaped n :: r.1, r.2)
    | _, _ => none
  | '\\' :: c :: rest =>
    match shortEscape? c, readUnits? rest with
    | some e, some r => some (.plain e :: r.1, r.2)
    | _, _ => none
  | c :: rest =>
    if c.toNat < 0x20 ∨ c = '\\' then none
    else (readUnits? rest).map fun r => (.plain c :: r.1, r.2)

/-- The first half of a surrogate pair. -/
def isHighHalf (n : Nat) : Bool :=
  0xd800 ≤ n && n ≤ 0xdbff

/-- The second half of a surrogate pair. -/
def isLowHalf (n : Nat) : Bool :=
  0xdc00 ≤ n && n ≤ 0xdfff

/-- The characters that the units denote, if every half of a pair stands in a pair. -/
def charsOfUnits? : List Unit16 → Option (List Char)
  | [] => some []
  | .plain c :: rest => (charsOfUnits? rest).map (c :: ·)
  | [.escaped n] => if isHighHalf n || isLowHalf n then none else some [Char.ofNat n]
  | .escaped n :: .plain c :: rest =>
    if isHighHalf n || isLowHalf n then none
    else (charsOfUnits? rest).map (Char.ofNat n :: c :: ·)
  | .escaped n :: .escaped m :: rest =>
    if isLowHalf n then none
    else if isHighHalf n then
      if isLowHalf m then
        (charsOfUnits? rest).map (Char.ofNat (0x10000 + (n - 0xd800) * 0x400 + (m - 0xdc00)) :: ·)
      else none
    else (charsOfUnits? (.escaped m :: rest)).map (Char.ofNat n :: ·)

/-- The string that follows an opening quote, and the rest. -/
def readString? (s : List Char) : Option (Option String × List Char) :=
  (readUnits? s).map fun r => ((charsOfUnits? r.1).map String.ofList, r.2)

/-! ### Values -/

mutual

/-- A value and the rest of the text; blanks before it are skipped. -/
def readValue? : Nat → List Char → Option (Json × List Char)
  | 0, _ => none
  | bound + 1, s =>
    match skipSpace s with
    | '\"' :: rest => (readString? rest).map fun r => (.string r.1, r.2)
    | '[' :: rest =>
      match skipSpace rest with
      | ']' :: after => some (.array [], after)
      | _ => (readItems? bound rest).map fun r => (.array r.1, r.2)
    | '\x7b' :: rest =>
      match skipSpace rest with
      | '\x7d' :: after => some (.object [], after)
      | _ => (readMembers? bound rest).map fun r => (.object r.1, r.2)
    | c :: rest =>
      match Text.after? "null".toList (c :: rest), Text.after? "true".toList (c :: rest),
          Text.after? "false".toList (c :: rest) with
      | some after, _, _ => some (.null, after)
      | _, some after, _ => some (.bool true, after)
      | _, _, some after => some (.bool false, after)
      | _, _, _ => (readNumber? (c :: rest)).map fun r => (.number (String.ofList r.1), r.2)
    | [] => none

/-- The items of an array that is not empty, up to its closing bracket. -/
def readItems? : Nat → List Char → Option (List Json × List Char)
  | 0, _ => none
  | bound + 1, s =>
    match readValue? bound s with
    | none => none
    | some (item, rest) =>
      match skipSpace rest with
      | ',' :: more => (readItems? bound more).map fun r => (item :: r.1, r.2)
      | ']' :: after => some ([item], after)
      | _ => none

/-- The members of an object that is not empty, up to its closing brace. -/
def readMembers? : Nat → List Char → Option (List (Option String × Json) × List Char)
  | 0, _ => none
  | bound + 1, s =>
    match skipSpace s with
    | '\"' :: rest =>
      match readString? rest with
      | none => none
      | some (name, rest) =>
        match skipSpace rest with
        | ':' :: rest =>
          match readValue? bound rest with
          | none => none
          | some (value, rest) =>
            match skipSpace rest with
            | ',' :: more => (readMembers? bound more).map fun r => ((name, value) :: r.1, r.2)
            | '\x7d' :: after => some ([(name, value)], after)
            | _ => none
        | _ => none
    | _ => none

end

/-- The value that the text denotes. -/
def parse? (s : List Char) : Option Json :=
  match readValue? (2 * s.length + 2) s with
  | some (value, rest) => if skipSpace rest = [] then some value else none
  | none => none

end QualityGate.Json
