/-
Lower-casing of words in ASCII letters.

ASCII letters are lower-cased on their own (`lowerAfter_cons_of_ascii`).  No character above ASCII has a
small ASCII letter as its form, but for two: the Kelvin sign gives `k`, and `İ` gives an `i` with a mark
behind it.  So a text has a word of small ASCII letters without a `k` as its lower-case form exactly if it
spells that word in ASCII letters, each in either case (`lower_eq_iff`).

In any text the case of ASCII letters leaves no trace in the lower-case form (`lower_map_toLower`).
-/
import QualityGate.Text.Casing

namespace QualityGate.Text

variable {c : Char} {before rest s w : List Char}

/-- A small ASCII letter that is the form of no character above ASCII. -/
def isPlainSmall (c : Char) : Bool :=
  'a' ≤ c && c ≤ 'z' && c ≠ 'k'

/-- The text spells the word in ASCII letters, each of them in either case. -/
def IsCaseVariant (w s : List Char) : Prop :=
  s.map Char.toLower = w

instance (w s : List Char) : Decidable (IsCaseVariant w s) :=
  inferInstanceAs (Decidable (s.map Char.toLower = w))

/-- What holds of the ASCII characters one by one holds of them all. -/
theorem forall_ascii {P : Char → Prop} (h : ∀ n < 0x80, P (Char.ofNat n)) (hc : c.toNat < 0x80) :
    P c := by
  have hself := h c.toNat hc
  rwa [Char.ofNat_toNat] at hself

theorem toNat_lt_of_isPlainSmall (h : isPlainSmall c = true) : c.toNat < 0x80 := by
  simp only [isPlainSmall, Bool.and_eq_true, decide_eq_true_eq] at h
  have hle : c.toNat ≤ 'z'.toNat := h.1.2
  exact Nat.lt_of_le_of_lt hle (by decide)

theorem isPlainSmall_ofNat {n : Nat} (h : 0x80 ≤ n) : isPlainSmall (Char.ofNat n) = false := by
  by_cases hvalid : n.isValidChar
  · have hof : Char.ofNat n = Char.ofNatAux n hvalid := dif_pos hvalid
    rw [hof, Bool.eq_false_iff]
    intro hsmall
    have hlt : n < 0x80 := toNat_lt_of_isPlainSmall hsmall
    omega
  · have hof : Char.ofNat n = '\x00' := dif_neg hvalid
    rw [hof]
    decide

theorem lowerChar_of_ascii (h : c.toNat < 0x80) : lowerChar c = c.toLower :=
  forall_ascii (P := fun c => lowerChar c = c.toLower) (by decide +kernel) h

/-- A character above ASCII has no other case in ASCII. -/
theorem toLower_of_high (h : 0x80 ≤ c.toNat) : c.toLower = c := by
  have hcapital : ¬ ('A'.val ≤ c.val ∧ c.val ≤ 'Z'.val) := by
    rintro ⟨-, hle⟩
    have hle' : c.toNat ≤ 'Z'.toNat := hle
    exact absurd (Nat.le_trans h hle') (by decide)
  exact dif_neg hcapital

theorem isPlainSmall_lowerChar (h : 0x80 ≤ c.toNat) : isPlainSmall (lowerChar c) = false := by
  have htargets : ∀ m ∈ lowerMappings, 0x80 ≤ m.2.2.2 ∨ m = (0x212a, 0x212a, 1, 0x6b) := by
    decide +kernel
  have hcapital : ¬ ('A' ≤ c ∧ c ≤ 'Z') := by
    rintro ⟨-, hle⟩
    have hle' : c.toNat ≤ 'Z'.toNat := hle
    exact absurd (Nat.le_trans h hle') (by decide)
  simp only [lowerChar, if_neg hcapital, if_neg (Nat.not_lt.2 h)]
  split
  · next m hfind =>
    rcases htargets m (List.mem_of_find?_eq_some hfind) with hhigh | rfl
    · exact isPlainSmall_ofNat (Nat.le_trans hhigh (Nat.le_add_right _ _))
    · -- the range of the Kelvin sign is that sign alone
      have hrange := List.find?_some hfind
      simp only [Bool.and_eq_true, decide_eq_true_eq] at hrange
      have hdiff : c.toNat - 0x212a = 0 := by omega
      simp only [hdiff]
      decide
  · rw [Bool.eq_false_iff]
    intro hsmall
    have hlt := toNat_lt_of_isPlainSmall hsmall
    omega

/-! ### Lower-casing of a text -/

theorem lowerAfter_cons_of_ascii (h : c.toNat < 0x80) :
    lowerAfter before (c :: rest) = c.toLower :: lowerAfter (c :: before) rest := by
  have hsigma : (c == 'Σ') = false := by
    rw [beq_eq_false_iff_ne]
    rintro rfl
    exact absurd h (by decide)
  have hdotted : (c == 'İ') = false := by
    rw [beq_eq_false_iff_ne]
    rintro rfl
    exact absurd h (by decide)
  rw [lowerAfter, hsigma, hdotted, lowerChar_of_ascii h]
  rfl

/-- A part in ASCII is lower-cased whatever stands around it. -/
theorem lowerAfter_append_of_ascii (h : ∀ c ∈ s, c.toNat < 0x80) :
    lowerAfter before (s ++ rest) = s.map Char.toLower ++ lowerAfter (s.reverse ++ before) rest := by
  induction s generalizing before with
  | nil => rfl
  | cons c s ih =>
    obtain ⟨hc, hs⟩ := List.forall_mem_cons.1 h
    rw [List.cons_append, lowerAfter_cons_of_ascii hc, ih hs, List.reverse_cons, List.append_assoc]
    rfl

/-- A text in ASCII is lower-cased letter by letter. -/
theorem lower_of_ascii (h : ∀ c ∈ s, c.toNat < 0x80) : lower s = s.map Char.toLower := by
  have hparts : lowerAfter [] (s ++ []) = s.map Char.toLower ++ lowerAfter (s.reverse ++ []) [] :=
    lowerAfter_append_of_ascii h
  rwa [List.append_nil, lowerAfter, List.append_nil] at hparts

/-- A character above ASCII leaves one that is in no plain word. -/
theorem exists_mem_lowerAfter (before rest : List Char) (h : 0x80 ≤ c.toNat) :
    ∃ d ∈ lowerAfter before (c :: rest), isPlainSmall d = false := by
  rw [lowerAfter]
  -- the sigma and the dotted capital are not lowered by the table
  by_cases hsigma : (c == 'Σ') = true
  · rw [if_pos hsigma]
    split
    · exact ⟨'ς', List.mem_append_left _ List.mem_cons_self, by decide⟩
    · exact ⟨'σ', List.mem_append_left _ List.mem_cons_self, by decide⟩
  · rw [if_neg hsigma]
    by_cases hdotted : (c == 'İ') = true
    · rw [if_pos hdotted]
      exact ⟨'\u0307', List.mem_append_left _ (List.mem_cons_of_mem _ List.mem_cons_self), by decide⟩
    · rw [if_neg hdotted]
      exact ⟨lowerChar c, List.mem_append_left _ List.mem_cons_self, isPlainSmall_lowerChar h⟩

theorem lowerAfter_eq_iff (h : ∀ c ∈ w, isPlainSmall c = true) :
    lowerAfter before s = w ↔ IsCaseVariant w s := by
  induction s generalizing before w with
  | nil => rfl
  | cons c rest ih =>
    rw [IsCaseVariant, List.map_cons]
    -- what is not ASCII is neither a case variant of a plain letter nor lowered to one
    by_cases hascii : c.toNat < 0x80
    · rw [lowerAfter_cons_of_ascii hascii]
      cases w with
      | nil => exact iff_of_false (List.cons_ne_nil _ _) (List.cons_ne_nil _ _)
      | cons d w =>
        rw [List.cons.injEq, List.cons.injEq, ih (List.forall_mem_cons.1 h).2, IsCaseVariant]
    · have hhigh := Nat.not_lt.1 hascii
      refine iff_of_false ?_ ?_
      · rintro rfl
        obtain ⟨d, hd, hnot⟩ := exists_mem_lowerAfter before rest hhigh
        rw [h d hd] at hnot
        cases hnot
      · rintro rfl
        have hplain := h c.toLower List.mem_cons_self
        rw [toLower_of_high hhigh] at hplain
        exact hascii (toNat_lt_of_isPlainSmall hplain)

theorem lower_eq_iff (h : ∀ c ∈ w, isPlainSmall c = true) : lower s = w ↔ IsCaseVariant w s :=
  lowerAfter_eq_iff h

/-! ### Letter case in ASCII -/

/-- What does not tell the two cases of an ASCII letter apart. -/
theorem apply_toLower {α : Type} {f : Char → α}
    (h : ∀ n < 0x80, f (Char.ofNat n).toLower = f (Char.ofNat n)) (c : Char) : f c.toLower = f c := by
  by_cases hascii : c.toNat < 0x80
  · exact forall_ascii (P := fun c => f c.toLower = f c) h hascii
  · rw [toLower_of_high (Nat.not_lt.1 hascii)]

theorem inRanges_of_lt {table : List (Nat × Nat)} {n : Nat} (h : ∀ r ∈ table, n < r.1) :
    inRanges table n = false := by
  rw [inRanges, List.any_eq_false]
  intro r hr
  simp [Nat.not_le.2 (h r hr)]

theorem inSteppedRanges_of_lt {table : List (Nat × Nat × Nat)} {n : Nat} (h : ∀ r ∈ table, n < r.1) :
    inSteppedRanges table n = false := by
  rw [inSteppedRanges, List.any_eq_false]
  intro r hr
  simp [Nat.not_le.2 (h r hr)]

theorem isCased_of_ascii (h : c.toNat < 0x80) :
    isCased c = (('A' ≤ c && c ≤ 'Z') || ('a' ≤ c && c ≤ 'z')) := by
  have hupper : ∀ r ∈ upperRanges, 0x80 ≤ r.1 := by decide +kernel
  have hlower : ∀ r ∈ lowerRanges, 0x80 ≤ r.1 := by decide +kernel
  have htitle : ∀ r ∈ titleRanges, 0x80 ≤ r.1 := by decide +kernel
  rw [isCased, isUpper, isLower, inSteppedRanges_of_lt fun r hr => Nat.lt_of_lt_of_le h (hupper r hr),
    inSteppedRanges_of_lt fun r hr => Nat.lt_of_lt_of_le h (hlower r hr),
    inRanges_of_lt fun r hr => Nat.lt_of_lt_of_le h (htitle r hr), Bool.or_false, Bool.or_false,
    Bool.or_false]

theorem isCaseIgnorable_of_ascii (h : c.toNat < 0x80) :
    isCaseIgnorable c = (c == '\'' || c == '.' || c == ':' || c == '^' || c == '\x60') := by
  have hranges : ∀ r ∈ caseIgnorableRanges, 0x80 ≤ r.1 := by decide +kernel
  rw [isCaseIgnorable, inRanges_of_lt fun r hr => Nat.lt_of_lt_of_le h (hranges r hr), Bool.or_false]

/-- The case of an ASCII letter tells neither whether it is cased nor whether it is passed over. -/
theorem meetsCased_map_toLower (s : List Char) : meetsCased (s.map Char.toLower) = meetsCased s := by
  -- the tables agree on a capital and its small letter, which is checked over ASCII
  have hascii : ∀ n < 0x80, (Char.ofNat n).toNat < 0x80 ∧ (Char.ofNat n).toLower.toNat < 0x80 := by
    decide
  have hignorable : isCaseIgnorable ∘ Char.toLower = isCaseIgnorable := by
    refine funext (apply_toLower fun n hn => ?_)
    rw [isCaseIgnorable_of_ascii (hascii n hn).1, isCaseIgnorable_of_ascii (hascii n hn).2]
    revert n
    decide +kernel
  have hcased : ∀ c, isCased (Char.toLower c) = isCased c := by
    refine apply_toLower fun n hn => ?_
    rw [isCased_of_ascii (hascii n hn).1, isCased_of_ascii (hascii n hn).2]
    revert n
    decide +kernel
  rw [meetsCased, meetsCased, List.dropWhile_map, hignorable]
  rcases s.dropWhile isCaseIgnorable with - | ⟨c, rest⟩
  · rfl
  · exact hcased c

/-- The lower-case form does not depend on the case of ASCII letters, nor on that of those before. -/
theorem lowerAfter_map_toLower (before s : List Char) :
    lowerAfter (before.map Char.toLower) (s.map Char.toLower) = lowerAfter before s := by
  induction s generalizing before with
  | nil => rfl
  | cons c s ih =>
    have hsigma : (c.toLower == 'Σ') = (c == 'Σ') :=
      apply_toLower (f := (· == 'Σ')) (by decide +kernel) c
    have hdotted : (c.toLower == 'İ') = (c == 'İ') :=
      apply_toLower (f := (· == 'İ')) (by decide +kernel) c
    have hlower : lowerChar c.toLower = lowerChar c := apply_toLower (by decide +kernel) c
    rw [List.map_cons, lowerAfter, lowerAfter, ← List.map_cons, ih, meetsCased_map_toLower,
      meetsCased_map_toLower, hsigma, hdotted, hlower]

theorem lower_map_toLower (s : List Char) : lower (s.map Char.toLower) = lower s :=
  lowerAfter_map_toLower [] s

end QualityGate.Text
