/-
Decimal digits of natural numbers: the text of a number is a run of ASCII digits, it starts with a
zero only if the number is zero, and it reads as the number.  With zeros before it, and in no other run
of characters, the number is read too (`readNat?_eq_some_iff`).

Runs of digits and runs of blanks do not overlap (`isDigit_of_isBlank`).
-/
import Mathlib.Data.List.Induction
import QualityGate.Proofs.Text.Cut
import QualityGate.Text.Blank
import QualityGate.Text.Digit

namespace QualityGate.Text

/-- A run of ASCII digits that is not empty. -/
def IsDigits (s : List Char) : Prop :=
  s ≠ [] ∧ ∀ c ∈ s, isAsciiDigit c = true

/-- The text does not start with a digit. -/
def EndsDigits (s : List Char) : Prop :=
  ∀ c, s.head? = some c → isAsciiDigit c = false

instance (s : List Char) : Decidable (EndsDigits s) :=
  decidable_of_iff (s.head?.all fun c => !isAsciiDigit c) <| by
    rw [EndsDigits]
    cases s.head? <;> simp

theorem takeWhile_digits {s rest : List Char} (hs : ∀ c ∈ s, isAsciiDigit c = true)
    (hrest : EndsDigits rest) :
    (s ++ rest).takeWhile isAsciiDigit = s ∧ (s ++ rest).dropWhile isAsciiDigit = rest :=
  takeWhile_run hs hrest

/-! ### Digits and blanks -/

/-- No blank is a digit, in the Unicode sense of both. -/
theorem isDigit_of_isBlank {c : Char} (h : isBlank c = true) : isDigit c = false := by
  -- every range of digits lies in one of the gaps between the blanks
  have hgaps : ∀ r ∈ digitRanges, 0xa0 < r.1 ∧ (r.2 < 0x1680 ∨ 0x1680 < r.1) ∧
      (r.2 < 0x2000 ∨ 0x205f < r.1) ∧ (r.2 < 0x3000 ∨ 0x3000 < r.1) := by
    decide
  simp only [isBlank, Bool.or_eq_true, Bool.and_eq_true, decide_eq_true_eq, beq_iff_eq] at h
  rw [isDigit, Bool.or_eq_false_iff]
  constructor
  · rw [isAsciiDigit, Bool.eq_false_iff]
    simp only [Bool.and_eq_true, decide_eq_true_eq, ne_eq]
    rintro ⟨hlow, hhigh⟩
    have hlow : 48 ≤ c.toNat := hlow
    have hhigh : c.toNat ≤ 57 := hhigh
    omega
  · rw [inRanges, List.any_eq_false]
    intro r hr
    simp only [Bool.and_eq_true, decide_eq_true_eq]
    have hr := hgaps r hr
    omega
/-! ### Texts of numbers -/

theorem isAsciiDigit_eq_isDigit (c : Char) : isAsciiDigit c = c.isDigit := by
  rw [isAsciiDigit, Char.isDigit, Bool.eq_iff_iff]
  simp [Char.le_def]

theorem IsDigits.append {s t : List Char} (hs : IsDigits s) (ht : ∀ c ∈ t, isAsciiDigit c = true) :
    IsDigits (s ++ t) := by
  refine ⟨List.append_ne_nil_of_left_ne_nil hs.1 t, fun c hc => ?_⟩
  rcases List.mem_append.1 hc with hc | hc
  · exact hs.2 c hc
  · exact ht c hc

theorem isDigits_toDigits (n : Nat) : IsDigits (Nat.toDigits 10 n) := by
  refine ⟨Nat.toDigits_ne_nil, fun c hc => ?_⟩
  rw [isAsciiDigit_eq_isDigit]
  exact Nat.isDigit_of_mem_toDigits (by omega) (by omega) hc

theorem head?_toDigits_ne_zero {n : Nat} (h : n ≠ 0) : (Nat.toDigits 10 n).head? ≠ some '0' := by
  induction n using Nat.strongRecOn with
  | ind n ih =>
    -- the first digit of a longer number is that of its tenth part
    by_cases hlt : n < 10
    · rw [Nat.toDigits_of_lt_base hlt]
      have hdigit : ∀ m < 10, m ≠ 0 → m.digitChar ≠ '0' := by decide
      simpa using hdigit n hlt h
    · have hfront : (Nat.toDigits 10 (n / 10)).head? ≠ some '0' :=
        ih (n / 10) (by omega) (by omega)
      rw [Nat.toDigits_of_base_le (by omega) (by omega)]
      obtain ⟨c, more, hcons⟩ := List.exists_cons_of_ne_nil (Nat.toDigits_ne_nil (n := n / 10) (b := 10))
      rw [hcons] at hfront ⊢
      exact hfront

/-- The text of a number ends no line. -/
theorem isInLine_repr (n : Nat) : IsInLine n.repr.toList := by
  intro c hc
  rw [Nat.toList_repr] at hc
  have hdigit := (isDigits_toDigits n).2 c hc
  constructor <;> rintro rfl <;> cases hdigit

theorem natOfDigits_toDigits (n : Nat) : natOfDigits (Nat.toDigits 10 n) = n := by
  have hread : natOfDigits (Nat.toDigits 10 n) = Nat.ofDigitChars 10 (Nat.toDigits 10 n) 0 := by
    rw [Nat.ofDigitChars_eq_foldl]
    rfl
  rw [hread, Nat.ofDigitChars_ten_toDigits]

/-! ### Leading zeros -/

/-- The characters are the digits of the number, with any number of zeros before them. -/
def DenotesNat (s : List Char) (n : Nat) : Prop :=
  ∃ k, s = List.replicate k '0' ++ Nat.toDigits 10 n

theorem DenotesNat.isDigits {s : List Char} {n : Nat} (h : DenotesNat s n) : IsDigits s := by
  obtain ⟨k, rfl⟩ := h
  obtain ⟨hne, hall⟩ := isDigits_toDigits n
  refine ⟨List.append_ne_nil_of_right_ne_nil _ hne, ?_⟩
  intro c hc
  rcases List.mem_append.1 hc with hc | hc
  · rw [(List.mem_replicate.1 hc).2]
    rfl
  · exact hall c hc

theorem natOfDigits_concat (s : List Char) (c : Char) :
    natOfDigits (s ++ [c]) = 10 * natOfDigits s + digitValue c := by
  rw [natOfDigits, List.foldl_append]
  rfl

theorem natOfDigits_zeros_append (k : Nat) (s : List Char) :
    natOfDigits (List.replicate k '0' ++ s) = natOfDigits s := by
  induction k with
  | zero => rfl
  | succ k ih => exact ih

theorem DenotesNat.natOfDigits_eq {s : List Char} {n : Nat} (h : DenotesNat s n) : natOfDigits s = n := by
  obtain ⟨k, rfl⟩ := h
  rw [natOfDigits_zeros_append, natOfDigits_toDigits]

/-- An ASCII digit is the text of its value. -/
theorem toDigits_digitValue {c : Char} (h : isAsciiDigit c = true) :
    digitValue c < 10 ∧ Nat.toDigits 10 (digitValue c) = [c] := by
  have hdigits : ∀ n < 58, 48 ≤ n → n - 48 < 10 ∧ Nat.toDigits 10 (n - 48) = [Char.ofNat n] := by
    decide
  simp only [isAsciiDigit, Bool.and_eq_true, decide_eq_true_eq] at h
  have hlow : 48 ≤ c.toNat := h.1
  have hhigh : c.toNat ≤ 57 := h.2
  have hself := hdigits c.toNat (by omega) hlow
  rwa [Char.ofNat_toNat] at hself

/-- Every run of digits denotes a number. -/
theorem IsDigits.denotesNat {s : List Char} (h : IsDigits s) : DenotesNat s (natOfDigits s) := by
  obtain ⟨hne, hall⟩ := h
  induction s using List.reverseRecOn with
  | nil => exact absurd rfl hne
  | append_singleton s c ih =>
    obtain ⟨hs, hc⟩ := List.forall_mem_append.1 hall
    obtain ⟨hlt, htext⟩ := toDigits_digitValue (hc c List.mem_cons_self)
    rw [natOfDigits_concat]
    by_cases hnil : s = []
    · subst hnil
      exact ⟨0, by rw [show 10 * natOfDigits [] = 0 from rfl, Nat.zero_add, htext]; rfl⟩
    · obtain ⟨k, hk⟩ := ih hnil hs
      rcases Nat.eq_zero_or_pos (natOfDigits s) with hzero | hpos
      · -- all digits before the last one are zeros, and the number loses one more than it had
        refine ⟨k + 1, ?_⟩
        rw [hzero, Nat.mul_zero, Nat.zero_add, htext]
        rw [hzero] at hk
        rw [hk, List.replicate_succ']
        rfl
      · refine ⟨k, ?_⟩
        rw [← Nat.toDigits_append_toDigits (by omega) hpos hlt, htext, ← List.append_assoc, ← hk]

/-- A number is read from its digits, with zeros before them or without. -/
theorem readNat?_eq_some_iff {s : List Char} {n : Nat} : readNat? s = some n ↔ DenotesNat s n := by
  have hread : (s.isEmpty || !s.all isAsciiDigit) = false ↔ IsDigits s := by
    simp [IsDigits]
  rw [readNat?]
  constructor
  · intro h
    split at h
    · cases h
    · next hdigits =>
      obtain rfl := Option.some.inj h
      exact (hread.1 (Bool.eq_false_iff.2 hdigits)).denotesNat
  · intro h
    rw [hread.2 h.isDigits, h.natOfDigits_eq]
    rfl

theorem readNat?_repr (n : Nat) : readNat? n.repr.toList = some n :=
  readNat?_eq_some_iff.2 ⟨0, Nat.toList_repr⟩

/-! ### The last number of a line -/

/-- The last run of digits. -/
def lastDigits (line : List Char) : List Char :=
  ((line.reverse.dropWhile fun c => !isAsciiDigit c).takeWhile isAsciiDigit).reverse

/-- The last number. -/
def lastNumber? (line : List Char) : Option Nat :=
  readNat? (lastDigits line)

theorem lastNumber?_append {front back : List Char} (n : Nat) (hfront : EndsDigits front.reverse)
    (hback : back.all (fun c => !isAsciiDigit c) = true) :
    lastNumber? (front ++ (n.repr.toList ++ back)) = some n := by
  have hdigits : IsDigits n.repr.toList := by
    rw [Nat.toList_repr]
    exact isDigits_toDigits n
  have hreversed : ∀ c ∈ n.repr.toList.reverse, isAsciiDigit c = true :=
    fun c hc => hdigits.2 c (List.mem_reverse.1 hc)
  -- read from the end, what stands behind the number holds no digit
  have hskip : (back.reverse ++ (n.repr.toList.reverse ++ front.reverse)).dropWhile
      (fun c => !isAsciiDigit c) = n.repr.toList.reverse ++ front.reverse := by
    have hnone : ∀ c ∈ back.reverse, (!isAsciiDigit c) = true :=
      fun c hc => List.all_eq_true.1 hback c (List.mem_reverse.1 hc)
    rw [List.dropWhile_append_of_pos hnone]
    obtain ⟨c, more, hcons⟩ := List.exists_cons_of_ne_nil (mt List.reverse_eq_nil_iff.1 hdigits.1)
    rw [hcons] at hreversed ⊢
    rw [List.cons_append, List.dropWhile_cons, hreversed c List.mem_cons_self]
    rfl
  rw [lastNumber?, lastDigits, List.reverse_append, List.reverse_append, List.append_assoc, hskip,
    (takeWhile_digits hreversed hfront).1, List.reverse_reverse, readNat?_repr]

end QualityGate.Text
