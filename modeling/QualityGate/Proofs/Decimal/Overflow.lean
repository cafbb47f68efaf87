/-
From where on a decimal is infinite.

`ofRatio` takes the exponent that leaves the quotient with 53 bits (`exists_exponentOf`), and there is no
number above the greatest exponent.  The greatest magnitude is `(2 ^ 53 - 1) * 2 ^ 971`, the next one
would be `2 ^ 1024`, and a quotient is infinite from the middle between them on: the middle itself is a
tie, and the mantissa of the greatest magnitude is odd (`ofRatio_eq_infinite_iff`).

A decimal that is by far too great or too small is not rounded at all.  These short ways agree with the
rounding (`ofDecimal_eq_infinite_iff`).
-/
import Mathlib.Algebra.Order.Field.Power
import Mathlib.Algebra.Order.Field.Rat
import Mathlib.Data.Rat.Cast.Order
import Mathlib.Tactic.FieldSimp
import Mathlib.Tactic.Linarith
import Mathlib.Tactic.NormNum
import Mathlib.Tactic.Ring
import QualityGate.Decimal.Binary64

namespace QualityGate.Binary64

/-- The least magnitude that is infinite. -/
def overflowThreshold : ℚ :=
  2 ^ 1024 - 2 ^ 970

variable {num den : Nat}

/-! ### Powers of two -/

theorem two_zpow_le {a b : ℤ} (h : a ≤ b) : (2 : ℚ) ^ a ≤ 2 ^ b :=
  zpow_le_zpow_right₀ one_le_two h

theorem overflowThreshold_eq : overflowThreshold = (2 ^ 54 - 1) * (2 : ℚ) ^ (970 : ℤ) := by
  have h : (2 : ℚ) ^ 1024 = 2 ^ 54 * 2 ^ 970 := by rw [← pow_add]
  rw [overflowThreshold, h, show (2 : ℚ) ^ (970 : ℤ) = 2 ^ 970 from zpow_natCast 2 970, sub_one_mul]

theorem overflowThreshold_le : overflowThreshold ≤ (2 : ℚ) ^ (1024 : ℤ) := by
  rw [overflowThreshold, show (2 : ℚ) ^ (1024 : ℤ) = 2 ^ 1024 from zpow_natCast 2 1024]
  exact sub_le_self _ (by positivity)

theorem lt_overflowThreshold : (2 : ℚ) ^ (1023 : ℤ) < overflowThreshold := by
  have h : (2 : ℚ) ^ (1023 : ℤ) = 2 ^ 53 * 2 ^ (970 : ℤ) := by
    rw [← zpow_natCast, ← zpow_add₀ two_ne_zero]
    norm_num
  have hpos : (0 : ℚ) < 2 ^ (970 : ℤ) := by positivity
  rw [overflowThreshold_eq, h]
  apply mul_lt_mul_of_pos_right _ hpos
  norm_num

/-! ### The parts of the rounding -/

theorem scaleDown_pos (num : Nat) (hden : 0 < den) (e : Int) : 0 < (scaleDown num den e).2 := by
  rw [scaleDown]
  split
  · exact Nat.mul_pos hden (Nat.pow_pos Nat.two_pos)
  · exact hden

theorem scaleDown_div (num den : Nat) (e : Int) :
    ((scaleDown num den e).1 : ℚ) / (scaleDown num den e).2 = (num : ℚ) / den / 2 ^ e := by
  rw [scaleDown]
  -- a negative exponent is put into the numerator
  by_cases he : 0 ≤ e
  · obtain ⟨n, rfl⟩ := Int.eq_ofNat_of_zero_le he
    rw [if_pos he]
    show (num : ℚ) / ((den * 2 ^ n : ℕ) : ℚ) = _
    rw [Nat.cast_mul, Nat.cast_pow, zpow_natCast, div_div]
    rfl
  · obtain ⟨n, hn⟩ := Int.eq_ofNat_of_zero_le (show 0 ≤ -e by omega)
    obtain rfl : e = -(n : ℤ) := by omega
    rw [if_neg he]
    show ((num * 2 ^ (- -(n : ℤ)).toNat : ℕ) : ℚ) / den = _
    rw [neg_neg, Int.toNat_natCast, Nat.cast_mul, Nat.cast_pow, zpow_neg, zpow_natCast, div_inv_eq_mul,
      div_mul_eq_mul_div]
    rfl

/-- A quotient below an even natural is rounded up to it from the middle on. -/
theorem roundQuotient_eq_iff {k : Nat} (hden : 0 < den) (hodd : k % 2 = 1)
    (hlt : num < (k + 1) * den) : roundQuotient num den = k + 1 ↔ (2 * k + 1) * den ≤ 2 * num := by
  have hq : num / den < k + 1 := Nat.div_lt_of_lt_mul (by rwa [Nat.mul_comm])
  have hdiv := Nat.div_add_mod num den
  have hmod := Nat.mod_lt num hden
  rw [roundQuotient]
  generalize num % den = r at *
  rcases Nat.lt_or_eq_of_le (Nat.le_of_lt_succ hq) with hsmall | heq
  · -- the whole part is too small for either side
    generalize num / den = q at *
    have hle : (q + 1) * den ≤ k * den := Nat.mul_le_mul_right den hsmall
    have hexpand : (q + 1) * den = den * q + den := by ring
    have hexpand' : (2 * k + 1) * den = 2 * (k * den) + den := by ring
    constructor
    · split
      · omega
      · split
        · omega
        · split <;> omega
    · omega
  · rw [heq] at hdiv ⊢
    have hexpand : (2 * k + 1) * den = 2 * (den * k) + den := by ring
    constructor
    · split
      · omega
      · omega
    · intro h
      rw [if_neg (by omega), if_neg (show k % 2 ≠ 0 by omega), ite_self]

/-- The first guess leaves the quotient with 53 or 54 bits. -/
theorem guess_bounds (hnum : num ≠ 0) (hden : den ≠ 0) {guess : ℤ}
    (hguess : guess = (num.log2 : ℤ) - den.log2 - 53) :
    (2 : ℚ) ^ (guess + 52) ≤ num / den ∧ (num : ℚ) / den < 2 ^ (guess + 54) := by
  have hdenpos : (0 : ℚ) < den := by exact_mod_cast Nat.pos_of_ne_zero hden
  have hlow : (2 : ℚ) ^ (num.log2 : ℤ) ≤ num := by
    rw [zpow_natCast]
    exact_mod_cast Nat.log2_self_le hnum
  have hhigh : (num : ℚ) < 2 ^ ((num.log2 : ℤ) + 1) := by
    exact_mod_cast Nat.lt_log2_self
  have hlow' : (2 : ℚ) ^ (den.log2 : ℤ) ≤ den := by
    rw [zpow_natCast]
    exact_mod_cast Nat.log2_self_le hden
  have hhigh' : (den : ℚ) < 2 ^ ((den.log2 : ℤ) + 1) := by
    exact_mod_cast Nat.lt_log2_self
  -- both logarithms are rounded down, so the quotient is known up to a factor of two on either side
  rw [le_div_iff₀ hdenpos, div_lt_iff₀ hdenpos]
  constructor
  · calc (2 : ℚ) ^ (guess + 52) * den
        ≤ 2 ^ (guess + 52) * 2 ^ ((den.log2 : ℤ) + 1) := by gcongr
      _ = 2 ^ (num.log2 : ℤ) := by
        rw [← zpow_add₀ two_ne_zero, hguess]
        congr 1
        ring
      _ ≤ num := hlow
  · calc (num : ℚ) < 2 ^ ((num.log2 : ℤ) + 1) := hhigh
      _ = 2 ^ (guess + 54) * 2 ^ (den.log2 : ℤ) := by
        rw [← zpow_add₀ two_ne_zero, hguess]
        congr 1
        ring
      _ ≤ 2 ^ (guess + 54) * den := by gcongr

/-- The quotient still has 54 bits at an exponent. -/
theorem two_pow_le_scaleDown_iff (num : Nat) (hden : den ≠ 0) (e : ℤ) :
    Nat.pow 2 53 * (scaleDown num den e).2 ≤ (scaleDown num den e).1 ↔
      (2 : ℚ) ^ (e + 53) ≤ num / den := by
  have hpos : (0 : ℚ) < (scaleDown num den e).2 := by
    exact_mod_cast scaleDown_pos num (Nat.pos_of_ne_zero hden) e
  have hpow : (0 : ℚ) < 2 ^ e := by positivity
  rw [zpow_add₀ two_ne_zero, mul_comm ((2 : ℚ) ^ e), ← le_div_iff₀ hpow, ← scaleDown_div,
    le_div_iff₀ hpos]
  show 2 ^ 53 * _ ≤ _ ↔ _
  exact_mod_cast Iff.rfl

/-- The quotient has 53 bits at the exponent that is taken, unless that is the least one. -/
theorem exists_exponentOf (hnum : num ≠ 0) (hden : den ≠ 0) :
    ∃ e, exponentOf num den = max e leastExponent ∧
      (2 : ℚ) ^ (e + 52) ≤ num / den ∧ (num : ℚ) / den < 2 ^ (e + 53) := by
  rw [exponentOf]
  generalize hg : (num.log2 : ℤ) - den.log2 - 53 = guess
  obtain ⟨hge, hlt⟩ := guess_bounds hnum hden hg.symm
  have hscaled := two_pow_le_scaleDown_iff num hden guess
  -- the guess is too low by one at most
  by_cases hbits : Nat.pow 2 53 * (scaleDown num den guess).2 ≤ (scaleDown num den guess).1
  · refine ⟨guess + 1, by rw [if_pos hbits], ?_, ?_⟩
    · rw [show guess + 1 + 52 = guess + 53 by ring]
      exact hscaled.1 hbits
    · rw [show guess + 1 + 53 = guess + 54 by ring]
      exact hlt
  · exact ⟨guess, by rw [if_neg hbits], hge, lt_of_not_ge (mt hscaled.2 hbits)⟩

/-! ### Quotients -/

/-- A rounded quotient is finite, or the exponent it would need is too great. -/
theorem ofRatio_eq_infinite_iff_exponent (negative : Bool) (hnum : num ≠ 0) :
    ofRatio negative num den = .infinite negative ↔
      greatestExponent < exponentOf num den ∨
        exponentOf num den = greatestExponent ∧
          roundQuotient (scaleDown num den (exponentOf num den)).1
            (scaleDown num den (exponentOf num den)).2 = 2 ^ 53 := by
  rw [ofRatio, if_neg hnum]
  dsimp only
  -- a mantissa of 54 bits carries into the exponent, which matters at the greatest one
  show _ ↔ _ ∨ _ ∧ _ = Nat.pow 2 53
  generalize exponentOf num den = e
  by_cases hcarry : roundQuotient (scaleDown num den e).1 (scaleDown num den e).2 = Nat.pow 2 53
  · rw [if_pos hcarry]
    by_cases h : greatestExponent < e + 1
    · rw [if_pos h]
      simp only [hcarry, true_iff, and_true]
      omega
    · rw [if_neg h]
      simp only [hcarry, reduceCtorEq, false_iff, and_true]
      omega
  · rw [if_neg hcarry]
    by_cases h : greatestExponent < e
    · rw [if_pos h]
      simp only [h, true_or]
    · rw [if_neg h]
      simp only [h, hcarry, reduceCtorEq, and_false, or_false]

/-- At the greatest exponent the rounding carries if and only if the threshold is reached. -/
theorem carries_iff (hden : den ≠ 0) (hhigh : (num : ℚ) / den < 2 ^ (971 + 53 : ℤ)) :
    roundQuotient (scaleDown num den 971).1 (scaleDown num den 971).2 = 2 ^ 53 ↔
      overflowThreshold ≤ (num : ℚ) / den := by
  have hpos := scaleDown_pos num (Nat.pos_of_ne_zero hden) 971
  have hposq : (0 : ℚ) < (scaleDown num den 971).2 := by exact_mod_cast hpos
  have hquotient := scaleDown_div num den 971
  have hpow : (0 : ℚ) < 2 ^ (971 : ℤ) := by positivity
  have hbits : (scaleDown num den 971).1 < (2 ^ 53 - 1 + 1) * (scaleDown num den 971).2 := by
    have hdiv : ((scaleDown num den 971).1 : ℚ) / (scaleDown num den 971).2 < 2 ^ 53 := by
      rw [hquotient, div_lt_iff₀ hpow, ← zpow_natCast, ← zpow_add₀ two_ne_zero]
      exact hhigh
    rw [div_lt_iff₀ hposq] at hdiv
    exact_mod_cast hdiv
  rw [show (2 : ℕ) ^ 53 = 2 ^ 53 - 1 + 1 from rfl, roundQuotient_eq_iff hpos (by norm_num) hbits]
  -- the quotient is compared with the middle between the last two mantissas
  have hdouble : (2 : ℚ) ^ (971 : ℤ) = 2 * 2 ^ (970 : ℤ) := by
    rw [show (971 : ℤ) = 1 + 970 from rfl, zpow_add₀ two_ne_zero, zpow_one]
  have hodd : ((2 * (2 ^ 53 - 1) + 1 : ℕ) : ℚ) = 2 ^ 54 - 1 := by norm_num
  rw [overflowThreshold_eq, ← hodd, ← div_le_div_iff_of_pos_right hpow, ← hquotient, hdouble,
    mul_div_mul_right _ _ (by positivity), div_le_div_iff₀ two_pos hposq, mul_comm _ (2 : ℚ)]
  exact_mod_cast Iff.rfl

/-- A quotient is infinite if and only if it reaches the threshold. -/
theorem ofRatio_eq_infinite_iff (negative : Bool) (hnum : num ≠ 0) (hden : den ≠ 0) :
    ofRatio negative num den = .infinite negative ↔ overflowThreshold ≤ (num : ℚ) / den := by
  obtain ⟨e, hexponent, hlow, hhigh⟩ := exists_exponentOf hnum hden
  rw [ofRatio_eq_infinite_iff_exponent negative hnum]
  have hgreatest : greatestExponent = 971 := rfl
  have hleast : leastExponent = -1074 := rfl
  rcases lt_trichotomy e 971 with hlt | rfl | hgt
  · -- the exponent is small enough even if the rounding carries
    have hsmall : (num : ℚ) / den < overflowThreshold :=
      calc (num : ℚ) / den < 2 ^ (e + 53) := hhigh
        _ ≤ 2 ^ (1023 : ℤ) := two_zpow_le (by omega)
        _ < overflowThreshold := lt_overflowThreshold
    refine iff_of_false ?_ (not_le.2 hsmall)
    rintro (h | ⟨h, -⟩) <;> omega
  · -- the greatest exponent: all depends on the rounding
    have hmax : exponentOf num den = 971 := by omega
    rw [hmax, hgreatest, carries_iff hden hhigh]
    simp
  · have hgreat : overflowThreshold ≤ (num : ℚ) / den :=
      calc overflowThreshold ≤ 2 ^ (1024 : ℤ) := overflowThreshold_le
        _ ≤ 2 ^ (e + 52) := two_zpow_le (by omega)
        _ ≤ (num : ℚ) / den := hlow
    refine iff_of_true (.inl ?_) hgreat
    omega

/-- What is not infinite is finite, with the same sign. -/
theorem ofRatio_cases (negative : Bool) (num den : Nat) :
    ofRatio negative num den = .infinite negative ∨
      ∃ m e, ofRatio negative num den = .finite negative m e := by
  rw [ofRatio]
  split
  · exact .inr ⟨_, _, rfl⟩
  · dsimp only
    generalize (if roundQuotient _ _ = Nat.pow 2 53 then _ else _ : Nat × Int) = whole
    split
    · exact .inl rfl
    · exact .inr ⟨_, _, rfl⟩

/-! ### Decimals -/

theorem overflowThreshold_pos : 0 < overflowThreshold :=
  lt_trans (by positivity) lt_overflowThreshold

/-- A decimal that is taken as too great without rounding is infinite. -/
theorem overflowThreshold_le_of_great {digits : Nat} {e : Int} (hdigits : digits ≠ 0)
    (h : 400 < (digits.log2 : Int) / 4 + e) : overflowThreshold ≤ (digits : ℚ) * 10 ^ e := by
  -- a digit of ten takes less than four bits
  have hten : (10 : ℚ) ^ (((digits.log2 / 4 : ℕ) : ℤ)) ≤ digits := by
    rw [zpow_natCast]
    have hnat : 10 ^ (digits.log2 / 4) ≤ digits :=
      calc 10 ^ (digits.log2 / 4) ≤ (2 ^ 4) ^ (digits.log2 / 4) := Nat.pow_le_pow_left (by norm_num) _
        _ = 2 ^ (4 * (digits.log2 / 4)) := (pow_mul 2 4 _).symm
        _ ≤ 2 ^ digits.log2 := Nat.pow_le_pow_right (by norm_num) (Nat.mul_div_le _ _)
        _ ≤ digits := Nat.log2_self_le hdigits
    exact_mod_cast hnat
  have hpow : (0 : ℚ) < 10 ^ e := by positivity
  calc overflowThreshold ≤ 2 ^ (1024 : ℤ) := overflowThreshold_le
    _ ≤ 2 ^ (3 * 401 : ℤ) := two_zpow_le (by norm_num)
    _ = (2 ^ (3 : ℤ)) ^ (401 : ℤ) := zpow_mul 2 3 401
    _ ≤ 10 ^ (401 : ℤ) := by
      apply zpow_le_zpow_left₀ (by norm_num) (by norm_num) (by norm_num)
    _ ≤ 10 ^ (((digits.log2 / 4 : ℕ) : ℤ) + e) := by
      apply zpow_le_zpow_right₀ (by norm_num)
      omega
    _ = 10 ^ (((digits.log2 / 4 : ℕ) : ℤ)) * 10 ^ e := zpow_add₀ (by norm_num) _ _
    _ ≤ (digits : ℚ) * 10 ^ e := by gcongr

/-- A decimal that is taken as too small without rounding is not infinite. -/
theorem lt_overflowThreshold_of_small {digits : Nat} {e : Int}
    (h : (digits.log2 : Int) + e < -400) : (digits : ℚ) * 10 ^ e < overflowThreshold := by
  -- there are no more digits of ten than bits
  have hten : (digits : ℚ) < 10 ^ ((digits.log2 : ℤ) + 1) := by
    have hnat : digits < 10 ^ (digits.log2 + 1) :=
      lt_of_lt_of_le Nat.lt_log2_self (Nat.pow_le_pow_left (by norm_num) _)
    exact_mod_cast hnat
  calc (digits : ℚ) * 10 ^ e < 10 ^ ((digits.log2 : ℤ) + 1) * 10 ^ e := by gcongr
    _ = 10 ^ ((digits.log2 : ℤ) + 1 + e) := (zpow_add₀ (by norm_num) _ _).symm
    _ ≤ 10 ^ (0 : ℤ) := by
      apply zpow_le_zpow_right₀ (by norm_num)
      omega
    _ = 2 ^ (0 : ℤ) := by rw [zpow_zero, zpow_zero]
    _ ≤ 2 ^ (1023 : ℤ) := two_zpow_le (by norm_num)
    _ < overflowThreshold := lt_overflowThreshold

/-- A decimal is infinite exactly from the threshold on. -/
theorem ofDecimal_eq_infinite_iff (negative : Bool) (digits : Nat) (e : Int) :
    ofDecimal negative digits e = .infinite negative ↔
      overflowThreshold ≤ (digits : ℚ) * 10 ^ e := by
  rw [ofDecimal]
  by_cases hdigits : digits = 0
  · rw [if_pos hdigits, hdigits, Nat.cast_zero, zero_mul]
    exact iff_of_false nofun (not_le.2 overflowThreshold_pos)
  · rw [if_neg hdigits]
    dsimp only
    -- the two short ways first, then the rounding with the power of ten on either side
    by_cases hgreat : 400 < (digits.log2 : Int) / 4 + e
    · rw [if_pos hgreat]
      exact iff_of_true rfl (overflowThreshold_le_of_great hdigits hgreat)
    · rw [if_neg hgreat]
      by_cases hsmall : (digits.log2 : Int) + e < -400
      · rw [if_pos hsmall]
        exact iff_of_false nofun (not_le.2 (lt_overflowThreshold_of_small hsmall))
      · rw [if_neg hsmall]
        by_cases he : 0 ≤ e
        · obtain ⟨n, rfl⟩ := Int.eq_ofNat_of_zero_le he
          rw [if_pos he, ofRatio_eq_infinite_iff negative _ one_ne_zero]
          · show _ ≤ ((digits * 10 ^ n : ℕ) : ℚ) / _ ↔ _
            rw [Nat.cast_one, div_one, Nat.cast_mul, Nat.cast_pow, ← zpow_natCast]
            rfl
          · exact Nat.mul_ne_zero hdigits (pow_ne_zero n (by norm_num))
        · obtain ⟨n, hn⟩ := Int.eq_ofNat_of_zero_le (show 0 ≤ -e by omega)
          obtain rfl : e = -(n : ℤ) := by omega
          rw [if_neg he, ofRatio_eq_infinite_iff negative hdigits]
          · show _ ≤ (digits : ℚ) / ((10 ^ (- -(n : ℤ)).toNat : ℕ) : ℚ) ↔ _
            rw [neg_neg, Int.toNat_natCast, Nat.cast_pow, zpow_neg, zpow_natCast, div_eq_mul_inv]
            rfl
          · exact pow_ne_zero _ (by norm_num)

theorem ofDecimal_cases (negative : Bool) (digits : Nat) (e : Int) :
    ofDecimal negative digits e = .infinite negative ∨
      ∃ m e', ofDecimal negative digits e = .finite negative m e' := by
  rw [ofDecimal]
  split
  · exact .inr ⟨_, _, rfl⟩
  · dsimp only
    split
    · exact .inl rfl
    · split
      · exact .inr ⟨_, _, rfl⟩
      · split
        · exact ofRatio_cases negative _ _
        · exact ofRatio_cases negative _ _

end QualityGate.Binary64
