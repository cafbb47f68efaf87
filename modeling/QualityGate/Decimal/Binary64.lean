/-
Numbers of the 64-bit binary format, exactly.

A finite magnitude is `mantissa * 2 ^ exponent` with a mantissa below `2 ^ 53` and an exponent of at
least `-1074`; unless the exponent is the least one, the mantissa has all its 53 bits.  `ofRatio`
rounds a quotient of naturals to the nearest magnitude, a tie to the even mantissa, and to infinity
from `2 ^ 1024` on.
-/
import QualityGate.Text.Digit

namespace QualityGate

/-- A number of the 64-bit binary format; the sign is kept for zero too. -/
inductive Binary64 where
  | finite (negative : Bool) (mantissa : Nat) (exponent : Int)
  | infinite (negative : Bool)
  | nan
  deriving DecidableEq

namespace Binary64

/-- The least exponent. -/
def leastExponent : Int := -1074

/-- The greatest exponent. -/
def greatestExponent : Int := 971

/-- The quotient rounded to the nearest natural, a tie to the even one. -/
def roundQuotient (num den : Nat) : Nat :=
  let q := num / den
  let twice := 2 * (num % den)
  if twice < den then q
  else if den < twice then q + 1
  else if q % 2 = 0 then q else q + 1

/-- Numerator and denominator of `num / den` divided by `2 ^ e`. -/
def scaleDown (num den : Nat) (e : Int) : Nat × Nat :=
  if 0 ≤ e then (num, den * Nat.pow 2 e.toNat) else (num * Nat.pow 2 (-e).toNat, den)

/-- The exponent that leaves the quotient with 53 bits, or the least one if it has fewer. -/
def exponentOf (num den : Nat) : Int :=
  let guess : Int := (Nat.log2 num : Int) - (Nat.log2 den : Int) - 53
  let scaled := scaleDown num den guess
  let e := if Nat.pow 2 53 * scaled.2 ≤ scaled.1 then guess + 1 else guess
  max e leastExponent

/-- The number nearest to `num / den`, with a sign. -/
def ofRatio (negative : Bool) (num den : Nat) : Binary64 :=
  if num = 0 then .finite negative 0 leastExponent
  else
    let e := exponentOf num den
    let scaled := scaleDown num den e
    let m := roundQuotient scaled.1 scaled.2
    let whole := if m = Nat.pow 2 53 then (Nat.pow 2 52, e + 1) else (m, e)
    if greatestExponent < whole.2 then .infinite negative else .finite negative whole.1 whole.2

/-- The number nearest to `digits * 10 ^ e`. -/
def ofDecimal (negative : Bool) (digits : Nat) (e : Int) : Binary64 :=
  if digits = 0 then .finite negative 0 leastExponent
  else
    let size : Int := (Nat.log2 digits : Int) / 4 + e
    if 400 < size then .infinite negative
    else if (Nat.log2 digits : Int) + e < -400 then .finite negative 0 leastExponent
    else if 0 ≤ e then ofRatio negative (digits * Nat.pow 10 e.toNat) 1
    else ofRatio negative digits (Nat.pow 10 (-e).toNat)

/-- Reads digits, and digits after a point. -/
def ofDigits (negative : Bool) (whole fraction : List Char) (e : Int) : Binary64 :=
  ofDecimal negative (Text.natOfDigits (whole ++ fraction)) (e - fraction.length)

end Binary64

end QualityGate
