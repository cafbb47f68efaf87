/-
The shortest decimal text of a number of the 64-bit binary format.

The reals that round to a finite magnitude form an interval around it, ends included exactly when its
mantissa is even.  For growing numbers of digits the two neighbours of the magnitude on the grid of
decimals with that many digits are tried; the first grid with a neighbour in the interval decides, and
of two neighbours in the interval the nearer one is taken.
-/
import QualityGate.Decimal.Binary64

namespace QualityGate

/-- Decimal digits and the power of ten that the number `0.d₁d₂…` is multiplied by. -/
structure Digits where
  digits : List Char
  point : Int
  deriving DecidableEq

/-- The digits of `n * 10 ^ k` without the zeros at the end. -/
def Digits.ofScaled (n : Nat) (k : Int) : Digits :=
  let all := Nat.toDigits 10 n
  ⟨(all.reverse.dropWhile (· = '0')).reverse, all.length + k⟩

/-- A run of zeros. -/
def zeros (n : Nat) : List Char :=
  List.replicate n '0'

/-- Positional notation, always with a fraction. -/
def Digits.positional (d : Digits) : List Char :=
  let n := d.digits.length
  if d.point ≤ 0 then '0' :: '.' :: zeros (-d.point).toNat ++ d.digits
  else if n ≤ d.point.toNat then d.digits ++ zeros (d.point.toNat - n) ++ ['.', '0']
  else d.digits.take d.point.toNat ++ '.' :: d.digits.drop d.point.toNat

/-- One digit before the point, and an exponent of ten. -/
def Digits.scientific (d : Digits) : List Char :=
  let mantissa :=
    match d.digits with
    | [] => ['0']
    | [c] => [c]
    | c :: rest => c :: '.' :: rest
  let e := d.point - 1
  mantissa ++ 'e' :: (if e < 0 then ['-'] else []) ++ Nat.toDigits 10 e.natAbs

namespace Binary64

/-- An interval with its centre, over a common denominator. -/
structure Rounding where
  low : Nat
  value : Nat
  high : Nat
  den : Nat
  closed : Bool

/-- The reals that round to `m * 2 ^ e`, for a positive mantissa. -/
def roundingOf (m : Nat) (e : Int) : Rounding :=
  let below := if m = Nat.pow 2 52 ∧ leastExponent < e then 1 else 2
  let num := Nat.pow 2 e.toNat
  let den := Nat.pow 2 (-e).toNat
  ⟨(4 * m - below) * num, 4 * m * num, (4 * m + 2) * num, 4 * den, m % 2 = 0⟩

/-- The decimal `n * 10 ^ k` rounds to the centre. -/
def Rounding.holds (r : Rounding) (n : Nat) (k : Int) : Bool :=
  let left := n * Nat.pow 10 k.toNat * r.den
  let scale := Nat.pow 10 (-k).toNat
  if r.closed then r.low * scale ≤ left && left ≤ r.high * scale
  else r.low * scale < left && left < r.high * scale

/-- The greatest `n` such that `n * 10 ^ k` is at most the centre, and whether the next one is
nearer. -/
def Rounding.floor (r : Rounding) (k : Int) : Nat × Bool :=
  let num := r.value * Nat.pow 10 (-k).toNat
  let den := r.den * Nat.pow 10 k.toNat
  let n := num / den
  let twice := 2 * (num % den)
  (n, den < twice || (twice = den && n % 2 = 1))

/-- The neighbour of the centre on the grid of multiples of `10 ^ k` that rounds to the centre. -/
def Rounding.neighbour? (r : Rounding) (k : Int) : Option Nat :=
  let (n, up) := r.floor k
  let low := r.holds n k
  let high := r.holds (n + 1) k
  match low, high with
  | true, true => some (if up then n + 1 else n)
  | true, false => if n = 0 then none else some n
  | false, true => some (n + 1)
  | false, false => none

/-- Tries grids from the coarsest on, at most `count` of them. -/
def Rounding.search (r : Rounding) (k : Int) : Nat → Nat × Int
  | 0 => (r.value / r.den, 0)
  | count + 1 =>
    match r.neighbour? k with
    | some n => (n, k)
    | none => r.search (k - 1) count

/-- The shortest digits that round to `m * 2 ^ e`. -/
def shortestDigits (m : Nat) (e : Int) : Digits :=
  if m = 0 then ⟨['0'], 1⟩
  else
    let r := roundingOf m e
    let top : Int := if r.den ≤ r.value then (Nat.toDigits 10 (r.value / r.den)).length
      else 1 - (Nat.toDigits 10 (r.den / r.value)).length
    let found := r.search (top + 1) 20
    Digits.ofScaled found.1 found.2

/-- A text's characters behind the sign. -/
def signed (negative : Bool) (s : List Char) : List Char :=
  if negative then '-' :: s else s

/-- Positional whatever the size; the names `inf` and `NaN` for what is not finite. -/
def positionalText : Binary64 → String
  | .finite negative m e => String.ofList (signed negative (shortestDigits m e).positional)
  | .infinite negative => String.ofList (signed negative "inf".toList)
  | .nan => "NaN"

/-- The text in a JSON document: positional from `10 ^ -5` up to `10 ^ 16`, with an exponent outside;
what is not finite has none. -/
def jsonText? : Binary64 → Option String
  | .finite negative m e =>
    let d := shortestDigits m e
    let text := if -5 < d.point ∧ d.point ≤ 16 then d.positional else d.scientific
    some (String.ofList (signed negative text))
  | _ => none

end Binary64

end QualityGate
