/-
The digits of a shortest decimal text.

The text of a binary number is made of digits that do not start with a zero, the number zero excepted
(`isNormal_shortestDigits`).  For the interval around a positive magnitude does not reach down to
zero, so no neighbour that the search for digits takes is zero.
-/
import Mathlib.Data.List.DropRight
import QualityGate.Decimal.Shortest
import QualityGate.Proofs.Text.Digit

namespace QualityGate

open Text

namespace Digits

/-- There is a first digit and it is no zero, or the number is zero. -/
def IsNormal (d : Digits) : Prop :=
  (IsDigits d.digits ∧ d.digits.head? ≠ some '0') ∨ d = ⟨[], 1⟩ ∨ d = ⟨['0'], 1⟩

theorem isNormal_ofScaled {n : Nat} (k : Int) (h : n ≠ 0) : (ofScaled n k).IsNormal := by
  obtain ⟨hne, hall⟩ := isDigits_toDigits n
  have hhead := head?_toDigits_ne_zero h
  -- dropping zeros at the end keeps the first digit
  have hfront : (ofScaled n k).digits <+: Nat.toDigits 10 n :=
    List.rdropWhile_prefix (· = '0') _
  have hkept : (ofScaled n k).digits ≠ [] := by
    intro hnil
    obtain ⟨c, more, hcons⟩ := List.exists_cons_of_ne_nil hne
    have hzero := List.rdropWhile_eq_nil_iff.1 hnil c (hcons ▸ List.mem_cons_self)
    rw [decide_eq_true_eq] at hzero
    rw [hcons, hzero] at hhead
    exact hhead rfl
  refine .inl ⟨⟨hkept, fun c hc => hall c (hfront.subset hc)⟩, ?_⟩
  obtain ⟨c, more, hcons⟩ := List.exists_cons_of_ne_nil hkept
  obtain ⟨dropped, happend⟩ := hfront
  rw [← happend, hcons] at hhead
  rw [hcons]
  exact hhead

theorem isNormal_ofScaled_zero : (ofScaled 0 0).IsNormal :=
  .inr (.inl rfl)

end Digits

namespace Binary64

theorem not_holds_zero {r : Rounding} (h : 0 < r.low) (k : Int) : r.holds 0 k = false := by
  have hpos : 0 < r.low * Nat.pow 10 (-k).toNat := Nat.mul_pos h (Nat.pow_pos (by omega))
  rw [Rounding.holds, Nat.zero_mul, Nat.zero_mul, decide_eq_false (Nat.not_le.2 hpos),
    decide_eq_false (Nat.not_lt.2 (Nat.zero_le _))]
  simp

theorem neighbour?_ne_zero {r : Rounding} (h : 0 < r.low) {k : Int} {n : Nat}
    (hn : r.neighbour? k = some n) : n ≠ 0 := by
  rintro rfl
  -- zero lies below everything that rounds to the number
  rw [Rounding.neighbour?] at hn
  dsimp only at hn
  split at hn
  · next hlow _ =>
    split at hn
    · cases hn
    · rw [Option.some.inj hn, not_holds_zero h] at hlow
      cases hlow
  · split at hn
    · cases hn
    · next hne => exact hne (Option.some.inj hn)
  · cases hn
  · cases hn

/-- The search gives no zero, except on the grid of whole numbers. -/
theorem search_ne_zero {r : Rounding} (h : 0 < r.low) (k : Int) (count : Nat) :
    (r.search k count).1 ≠ 0 ∨ (r.search k count).2 = 0 := by
  induction count generalizing k with
  | zero => exact .inr rfl
  | succ count ih =>
    rw [Rounding.search]
    rcases hn : r.neighbour? k with - | n
    · exact ih (k - 1)
    · exact .inl (neighbour?_ne_zero h hn)

theorem isNormal_search {r : Rounding} (h : 0 < r.low) (k : Int) (count : Nat) :
    (Digits.ofScaled (r.search k count).1 (r.search k count).2).IsNormal := by
  by_cases hzero : (r.search k count).1 = 0
  · rw [hzero, (search_ne_zero h k count).resolve_left fun hne => hne hzero]
    exact Digits.isNormal_ofScaled_zero
  · exact Digits.isNormal_ofScaled _ hzero

theorem low_roundingOf_pos {m : Nat} (e : Int) (h : m ≠ 0) : 0 < (roundingOf m e).low := by
  have hbelow : 0 < 4 * m - (if m = Nat.pow 2 52 ∧ leastExponent < e then 1 else 2) := by
    split <;> omega
  exact Nat.mul_pos hbelow (Nat.pow_pos (by omega))

theorem isNormal_shortestDigits (m : Nat) (e : Int) : (shortestDigits m e).IsNormal := by
  by_cases hm : m = 0
  · rw [shortestDigits, if_pos hm]
    exact .inr (.inr rfl)
  · rw [shortestDigits, if_neg hm]
    exact isNormal_search (low_roundingOf_pos e hm) _ 20

end Binary64

end QualityGate
