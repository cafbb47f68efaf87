/-
Numbers, dates and times of TOML documents.

A number has no zeros before its digits and an underscore only between digits.  An integer has to fit
into 64 bits, and a number that would be positive infinity is refused unless it is written so.  Dates
and times are written back in one spelling: a `T` between date and time, a fraction of at most nine
digits without zeros at its end, and `Z` for no offset if it was given so.
-/
import QualityGate.Toml.Text

namespace QualityGate.Toml

/-- Digits with single underscores between them. -/
def readDigitRun? (digit : Char → Bool) : List Char → Read (List Char)
  | [] => none
  | [c] => if digit c then some ([c], []) else none
  | c :: '_' :: s =>
    if digit c then (readDigitRun? digit s).map fun r => (c :: r.1, r.2) else none
  | c :: d :: s =>
    if digit c then
      if digit d then (readDigitRun? digit (d :: s)).map fun r => (c :: r.1, r.2)
      else some ([c], d :: s)
    else none

/-- Decimal digits with single underscores between them. -/
def readDecimalRun? : List Char → Read (List Char) :=
  readDigitRun? Text.isAsciiDigit

/-- A sign, if there is one, and whether it is a minus. -/
def readSign : List Char → Bool × List Char
  | '+' :: s => (false, s)
  | '-' :: s => (true, s)
  | s => (false, s)

/-- The digits of a whole number: a single zero, or digits that do not start with one. -/
def readWhole? (s : List Char) : Read (List Char) :=
  match s with
  | '0' :: rest => some (['0'], rest)
  | _ => readDecimalRun? s

/-- The integer with a sign, if it fits into 64 bits. -/
def integer? (negative : Bool) (n : Nat) : Option Toml :=
  if negative then if n ≤ Nat.pow 2 63 then some (.integer (-n)) else none
  else if n < Nat.pow 2 63 then some (.integer n)
  else none

/-- An integer of another base, behind its zero and letter. -/
def readBased? (base : Nat) (s : List Char) : Read Toml :=
  let digit (c : Char) : Bool := (Json.hexValue? c).any (· < base)
  match readDigitRun? digit s with
  | some (digits, rest) =>
    let n := digits.foldl (fun n c => base * n + (Json.hexValue? c).getD 0) 0
    (integer? false n).map fun value => (value, rest)
  | none => none

/-- A decimal integer. -/
def readDecimal? (s : List Char) : Read Toml :=
  let (negative, s) := readSign s
  match readWhole? s with
  | some (digits, rest) =>
    (integer? negative (Text.natOfDigits digits)).map fun value => (value, rest)
  | none => none

/-- An integer. -/
def readInteger? (s : List Char) : Read Toml :=
  match s with
  | '0' :: 'x' :: rest => readBased? 16 rest
  | '0' :: 'o' :: rest => readBased? 8 rest
  | '0' :: 'b' :: rest => readBased? 2 rest
  | _ => readDecimal? s

/-! ### Floating point -/

/-- An exponent. -/
def readExponent? (s : List Char) : Read Int :=
  match s with
  | c :: rest =>
    if c = 'e' ∨ c = 'E' then
      let (negative, rest) := readSign rest
      (readDecimalRun? rest).map fun r =>
        let n : Int := Text.natOfDigits r.1
        (if negative then -n else n, r.2)
    else none
  | [] => none

/-- A fraction and perhaps an exponent, or an exponent alone. -/
def readFraction? (s : List Char) : Read (List Char × Int) :=
  match s with
  | '.' :: rest =>
    match readDecimalRun? rest with
    | none => none
    | some (fraction, behind) =>
      match behind with
      | c :: _ =>
        if c = 'e' ∨ c = 'E' then (readExponent? behind).map fun r => ((fraction, r.1), r.2)
        else some ((fraction, 0), behind)
      | [] => some ((fraction, 0), [])
  | _ => (readExponent? s).map fun r => (([], r.1), r.2)

/-- A number with a fraction or an exponent, or one of the special numbers. -/
def readFloat? (s : List Char) : Read Toml :=
  let (negative, s) := readSign s
  match Text.after? "inf".toList s, Text.after? "nan".toList s with
  | some rest, _ => some (.float (.infinite negative), rest)
  | none, some rest => some (.float .nan, rest)
  | none, none =>
    match readWhole? s with
    | none => none
    | some (whole, rest) =>
      match readFraction? rest with
      | none => none
      | some ((fraction, e), behind) =>
        let value := Binary64.ofDigits negative whole fraction e
        if value = .infinite false then none else some (.float value, behind)

/-! ### Dates and times -/

/-- A number of exactly `count` digits. -/
def readFixed? (count : Nat) (s : List Char) : Read Nat :=
  (Text.readNat? (s.take count)).bind fun n =>
    if (s.take count).length = count then some (n, s.drop count) else none

/-- A number of two digits in a range. -/
def readTwo? (low high : Nat) (s : List Char) : Read Nat :=
  (readFixed? 2 s).bind fun r => if low ≤ r.1 ∧ r.1 ≤ high then some r else none

/-- What stands behind the character. -/
def afterChar? (c : Char) (s : List Char) : Option (List Char) :=
  Text.after? [c] s

/-- Number of days of a month. -/
def daysOfMonth (year month : Nat) : Nat :=
  if month = 2 then if year % 4 = 0 ∧ (year % 100 ≠ 0 ∨ year % 400 = 0) then 29 else 28
  else if month = 4 ∨ month = 6 ∨ month = 9 ∨ month = 11 then 30
  else 31

/-- A number with zeros before it. -/
def padded (width n : Nat) : List Char :=
  let digits := Nat.toDigits 10 n
  List.replicate (width - digits.length) '0' ++ digits

/-- A date, as it is written. -/
def readDate? (s : List Char) : Option (List Char × List Char) := do
  let (year, s) ← readFixed? 4 s
  let s ← afterChar? '-' s
  let (month, s) ← readTwo? 1 12 s
  let s ← afterChar? '-' s
  let (day, s) ← readTwo? 1 31 s
  if day ≤ daysOfMonth year month then
    return (padded 4 year ++ '-' :: padded 2 month ++ '-' :: padded 2 day, s)
  else none

/-- A fraction of a second: at most nine digits count, zeros at the end do not. -/
def readSecondFraction (s : List Char) : Option (List Char × List Char) :=
  match s with
  | '.' :: rest =>
    match rest.takeWhile Text.isAsciiDigit with
    | [] => none
    | digits =>
      let shown := ((digits.take 9).reverse.dropWhile (· = '0')).reverse
      some (if shown = [] then [] else '.' :: shown, rest.dropWhile Text.isAsciiDigit)
  | _ => some ([], s)

/-- A time, as it is written. -/
def readTime? (s : List Char) : Option (List Char × List Char) := do
  let (hour, s) ← readTwo? 0 23 s
  let s ← afterChar? ':' s
  let (minute, s) ← readTwo? 0 59 s
  let s ← afterChar? ':' s
  let (second, s) ← readTwo? 0 60 s
  let (fraction, s) ← readSecondFraction s
  return (padded 2 hour ++ ':' :: padded 2 minute ++ ':' :: padded 2 second ++ fraction, s)

/-- An offset behind a time, as it is written; no offset at all is also one. -/
def readOffset? (s : List Char) : Option (List Char × List Char) :=
  match s with
  | c :: rest =>
    if c = 'Z' ∨ c = 'z' then some (['Z'], rest)
    else if c = '+' ∨ c = '-' then do
      let (hour, rest) ← readTwo? 0 23 rest
      let rest ← afterChar? ':' rest
      let (minute, rest) ← readTwo? 0 59 rest
      let sign := if hour = 0 ∧ minute = 0 then '+' else c
      return (sign :: padded 2 hour ++ ':' :: padded 2 minute, rest)
    else some ([], s)
  | [] => some ([], s)

/-- Hours and a colon start the text. -/
def startsTime (s : List Char) : Bool :=
  match readFixed? 2 s with
  | some (_, ':' :: _) => true
  | _ => false

/-- A date, a time, or both. -/
def readDatetime? (s : List Char) : Option (Toml × List Char) := do
  if startsTime s then
    let (time, rest) ← readTime? s
    return (.datetime (String.ofList time), rest)
  else
    let (date, rest) ← readDate? s
    match rest with
    | c :: more =>
      if (c = 'T' ∨ c = 't' ∨ c = ' ') ∧ startsTime more then
        let (time, more) ← readTime? more
        let (offset, more) ← readOffset? more
        return (.datetime (String.ofList (date ++ 'T' :: time ++ offset)), more)
      else return (.datetime (String.ofList date), rest)
    | [] => return (.datetime (String.ofList date), [])

/-- A number, a date or a time: the first of date, number with fraction, and integer that can be
read. -/
def readNumber? (s : List Char) : Read Toml :=
  ((readDatetime? s).orElse fun _ => readFloat? s).orElse fun _ => readInteger? s

end QualityGate.Toml
