/-
Naturals that are kept exactly.

A natural below `2 ^ 53` has no more bits than a mantissa.  The exponent that is taken for it is not
positive (`exponentOf_natural`), so the natural is only moved to the left, and with one as the
denominator there is nothing to round.  So it is kept exactly, with or without a sign
(`value?_ofDecimal_natural`).
-/
import QualityGate.Proofs.Decimal.Overflow

namespace QualityGate.Binary64

variable {n : Nat}

/-- The sign as a factor. -/
def signFactor (negative : Bool) : ℚ :=
  if negative then -1 else 1

/-- The number that is kept, if it is finite. -/
def value? : Binary64 → Option ℚ
  | .finite negative m e => some (signFactor negative * (m * 2 ^ e))
  | .infinite _ | .nan => none

theorem roundQuotient_one (n : Nat) : roundQuotient n 1 = n := by
  rw [roundQuotient, Nat.div_one, Nat.mod_one]
  rfl

/-- The exponent that is taken leaves a natural of at most 53 bits whole. -/
theorem exponentOf_natural (hne : n ≠ 0) (hlt : n < 2 ^ 53) :
    ∃ k : ℕ, exponentOf n 1 = -k ∧ n * 2 ^ k < 2 ^ 53 := by
  obtain ⟨e, hexponent, hlow, hhigh⟩ := exists_exponentOf hne one_ne_zero
  rw [Nat.cast_one, div_one] at hlow hhigh
  have hone : (1 : ℚ) ≤ n := by exact_mod_cast Nat.pos_of_ne_zero hne
  have hbits : (n : ℚ) < 2 ^ (53 : ℤ) := by exact_mod_cast hlt
  -- it is at least one and has no more than 53 bits, and that bounds the exponent on both sides
  have hnonpos : e ≤ 0 := by
    have hpow : (2 : ℚ) ^ (e + 52) < 2 ^ (53 : ℤ) := lt_of_le_of_lt hlow hbits
    have hlt := (zpow_lt_zpow_iff_right₀ one_lt_two).1 hpow
    omega
  have hleast : -53 < e := by
    have hpow : (2 : ℚ) ^ (0 : ℤ) < 2 ^ (e + 53) := by
      rw [zpow_zero]
      exact lt_of_le_of_lt hone hhigh
    have hlt := (zpow_lt_zpow_iff_right₀ one_lt_two).1 hpow
    omega
  obtain ⟨k, hk⟩ := Int.eq_ofNat_of_zero_le (show 0 ≤ -e by omega)
  obtain rfl : e = -(k : ℤ) := by omega
  refine ⟨k, ?_, ?_⟩
  · rw [hexponent, leastExponent]
    omega
  · rw [zpow_add₀ two_ne_zero, zpow_neg, zpow_natCast, inv_mul_eq_div, lt_div_iff₀ (by positivity)]
      at hhigh
    exact_mod_cast hhigh

/-- A natural of at most 53 bits is moved to the left and not rounded. -/
theorem ofRatio_natural (negative : Bool) (hne : n ≠ 0) (hlt : n < 2 ^ 53) :
    ∃ k : ℕ, ofRatio negative n 1 = .finite negative (n * 2 ^ k) (-k) := by
  obtain ⟨k, hexponent, hsmall⟩ := exponentOf_natural hne hlt
  -- a small number is scaled up, which leaves no remainder to round
  have hscale : scaleDown n 1 (-k) = (n * 2 ^ k, 1) := by
    cases k with
    | zero =>
      show (n, 1 * Nat.pow 2 0) = _
      rw [pow_zero, mul_one]
    | succ k =>
      have hnot : ¬ (0 : ℤ) ≤ -((k + 1 : ℕ) : ℤ) := by omega
      rw [scaleDown, if_neg hnot, neg_neg, Int.toNat_natCast]
      rfl
  have hcarry : n * 2 ^ k ≠ Nat.pow 2 53 := Nat.ne_of_lt hsmall
  have hgreat : ¬ greatestExponent < -(k : ℤ) := by
    rw [greatestExponent]
    omega
  refine ⟨k, ?_⟩
  rw [ofRatio, if_neg hne]
  simp only [hexponent, hscale, roundQuotient_one, if_neg hcarry, if_neg hgreat]

theorem value?_ofRatio_natural (negative : Bool) (hne : n ≠ 0) (hlt : n < 2 ^ 53) :
    (ofRatio negative n 1).value? = some (signFactor negative * n) := by
  obtain ⟨k, hk⟩ := ofRatio_natural negative hne hlt
  have hpow : (2 : ℚ) ^ k ≠ 0 := pow_ne_zero k two_ne_zero
  rw [hk, value?, Nat.cast_mul, Nat.cast_pow, Nat.cast_two, zpow_neg, zpow_natCast,
    mul_inv_cancel_right₀ hpow]

/-- A natural below `2 ^ 53` is read exactly. -/
theorem value?_ofDecimal_natural (negative : Bool) (hlt : n < 2 ^ 53) :
    (ofDecimal negative n 0).value? = some (signFactor negative * n) := by
  rw [ofDecimal]
  by_cases hne : n = 0
  · rw [if_pos hne, hne, value?, Nat.cast_zero, zero_mul]
  -- the number is far from both bounds of what is rounded at once
  · have hlog : n.log2 < 53 := (Nat.log2_lt hne).2 hlt
    have hgreat : ¬ (400 < (n.log2 : ℤ) / 4 + 0) := by omega
    have hsmall : ¬ ((n.log2 : ℤ) + 0 < -400) := by omega
    rw [if_neg hne]
    simp only [if_neg hgreat, if_neg hsmall, le_refl, if_true]
    rw [← value?_ofRatio_natural negative hne hlt]
    exact congrArg (fun m => (ofRatio negative m 1).value?) (mul_one n)

end QualityGate.Binary64
