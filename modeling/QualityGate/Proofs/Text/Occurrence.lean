/-
Where a word occurs in a text.

A text starts with a word exactly if it is the word and a rest (`after?_eq_some_iff`), and it ends with a
word exactly if it is something and the word (`endsWith_iff`).

A text holds a word exactly if the word is a contiguous part of it (`contains_iff`).

What stands behind the first occurrence of a word can change without moving it
(`around?_append_of_some`).  No occurrence reaches over a character that is not in the word: if there is
none on the left of such characters, the first one is the first on their right
(`around?_append_gap`).  Two occurrences of a word that does not start as it ends do not overlap, so behind a
text that does not hold it the word stands for the first time (`around?_append_word`).
-/
import Mathlib.Data.List.Infix
import QualityGate.Text.Cut

namespace QualityGate.Text

variable {c : Char} {word s t gap before rest : List Char}

/-! ### Words at the ends of a text -/

theorem after?_append (word rest : List Char) : after? word (word ++ rest) = some rest := by
  induction word with
  | nil => exact after?_nil rest
  | cons w word ih => rw [List.cons_append, after?, if_pos rfl, ih]

theorem after?_eq_some_iff : after? word s = some rest ↔ s = word ++ rest :=
  ⟨eq_append_of_after?, fun h => h ▸ after?_append word rest⟩

theorem after?_eq_none_iff : after? word s = none ↔ ¬ word <+: s := by
  simp only [Option.eq_none_iff_forall_ne_some, ne_eq, after?_eq_some_iff]
  exact ⟨fun h ⟨rest, hrest⟩ => h rest hrest.symm, fun h rest hrest => h ⟨rest, hrest.symm⟩⟩

theorem startsWith_iff : startsWith word s = true ↔ word <+: s := by
  simp only [startsWith, Option.isSome_iff_exists, after?_eq_some_iff]
  exact exists_congr fun rest => eq_comm

theorem endsWith_iff : endsWith word s = true ↔ word <:+ s := by
  rw [endsWith, ← startsWith, startsWith_iff, List.reverse_prefix]

/-! ### The first occurrence -/

theorem around?_of_after? (h : after? word s = some rest) : around? word s = some ([], rest) := by
  cases s with
  | nil => rw [around?, h, Option.map_some]
  | cons c s => rw [around?, h]

theorem around?_cons_of_none (h : after? word (c :: s) = none) :
    around? word (c :: s) = (around? word s).map fun r => (c :: r.1, r.2) := by
  rw [around?, h]

theorem contains_iff : contains word s = true ↔ word <:+: s := by
  rw [contains, Option.isSome_iff_exists]
  constructor
  · rintro ⟨⟨before, rest⟩, h⟩
    exact ⟨before, rest, (eq_append_of_around? h).symm⟩
  · intro h
    induction s with
    | nil =>
      obtain rfl := List.eq_nil_of_infix_nil h
      exact ⟨([], []), rfl⟩
    | cons c s ih =>
      rcases hafter : after? word (c :: s) with - | rest
      · obtain ⟨r, hr⟩ := ih ((List.infix_cons_iff.1 h).resolve_left (after?_eq_none_iff.1 hafter))
        exact ⟨_, by rw [around?_cons_of_none hafter, hr, Option.map_some]⟩
      · exact ⟨_, around?_of_after? hafter⟩

/-- A longer text has the first occurrence at the same place. -/
theorem around?_append_of_some (h : around? word s = some (before, rest)) (t : List Char) :
    around? word (s ++ t) = some (before, rest ++ t) := by
  induction s generalizing before with
  | nil =>
    obtain ⟨r, hr, heq⟩ := Option.map_eq_some_iff.1 h
    obtain ⟨rfl, rfl⟩ := Prod.mk.inj heq
    apply around?_of_after?
    rw [after?_eq_some_iff.1 hr, List.append_assoc, after?_append]
  | cons c s ih =>
    rcases hafter : after? word (c :: s) with - | r
    · rw [around?_cons_of_none hafter] at h
      obtain ⟨⟨b, r⟩, hr, heq⟩ := Option.map_eq_some_iff.1 h
      obtain ⟨rfl, rfl⟩ := Prod.mk.inj heq
      -- the word fits behind the first character, so at that character it cannot reach into `t`
      have hlength : word.length ≤ (c :: s).length := by
        have hs := congrArg List.length (eq_append_of_around? hr)
        simp only [List.length_append, List.length_cons] at hs ⊢
        omega
      have hnone : after? word (c :: s ++ t) = none := by
        rw [after?_eq_none_iff] at hafter ⊢
        exact fun hprefix =>
          hafter (List.prefix_of_prefix_length_le hprefix (List.prefix_append _ _) hlength)
      rw [List.cons_append] at hnone ⊢
      rw [around?_cons_of_none hnone, ih hr, Option.map_some]
    · rw [around?_of_after? hafter] at h
      obtain ⟨rfl, rfl⟩ := Prod.mk.inj (Option.some.inj h)
      apply around?_of_after?
      rw [after?_eq_some_iff.1 hafter, List.append_assoc, after?_append]

theorem not_prefix_append_cons (h : ¬ word <+: s) (hc : c ∉ word) (t : List Char) :
    ¬ word <+: s ++ c :: t := by
  rintro ⟨rest, heq⟩
  rcases List.append_eq_append_iff.1 heq with ⟨more, hs, -⟩ | ⟨more, hword, htail⟩
  · exact h ⟨more, hs.symm⟩
  · cases more with
    | nil => exact h ⟨[], by rw [hword, List.append_nil, List.append_nil]⟩
    | cons d more =>
      obtain ⟨rfl, -⟩ := List.cons.inj htail
      exact hc (hword ▸ List.mem_append_right _ List.mem_cons_self)

/-- An occurrence does not reach over a character that is not in the word. -/
theorem around?_append_cons (hne : word ≠ []) (h : around? word s = none) (hc : c ∉ word)
    (t : List Char) :
    around? word (s ++ c :: t) = (around? word t).map fun r => (s ++ c :: r.1, r.2) := by
  induction s with
  | nil =>
    have hnone : after? word (c :: t) = none :=
      after?_eq_none_iff.2 (not_prefix_append_cons (fun h => hne (List.prefix_nil.1 h)) hc t)
    exact around?_cons_of_none hnone
  | cons d s ih =>
    -- an occurrence that reached over the character would hold it
    rcases hafter : after? word (d :: s) with - | r
    · rw [around?_cons_of_none hafter, Option.map_eq_none_iff] at h
      have hnone : after? word (d :: (s ++ c :: t)) = none :=
        after?_eq_none_iff.2 (not_prefix_append_cons (after?_eq_none_iff.1 hafter) hc t)
      rw [List.cons_append, around?_cons_of_none hnone, ih h, Option.map_map]
      rfl
    · rw [around?_of_after? hafter] at h
      cases h

theorem around?_nil (hne : word ≠ []) : around? word [] = none := by
  rw [around?, Option.map_eq_none_iff, after?_eq_none_iff]
  exact fun h => hne (List.prefix_nil.1 h)

theorem around?_gap_append (hne : word ≠ []) (hgap : ∀ c ∈ gap, c ∉ word) (t : List Char) :
    around? word (gap ++ t) = (around? word t).map fun r => (gap ++ r.1, r.2) := by
  induction gap with
  | nil => exact Option.map_id'.symm
  | cons c gap ih =>
    obtain ⟨hc, hgap⟩ := List.forall_mem_cons.1 hgap
    have hcons := around?_append_cons hne (around?_nil hne) hc (gap ++ t)
    rw [ih hgap, Option.map_map] at hcons
    exact hcons

/-- An occurrence does not reach over a gap of characters that are not in the word. -/
theorem around?_append_gap (hne : word ≠ []) (h : around? word s = none) (hnonempty : gap ≠ [])
    (hgap : ∀ c ∈ gap, c ∉ word) (t : List Char) :
    around? word (s ++ gap ++ t) = (around? word t).map fun r => (s ++ gap ++ r.1, r.2) := by
  obtain ⟨c, gap, rfl⟩ := List.exists_cons_of_ne_nil hnonempty
  obtain ⟨hc, hgap⟩ := List.forall_mem_cons.1 hgap
  rw [List.append_assoc, List.cons_append, around?_append_cons hne h hc, around?_gap_append hne hgap,
    Option.map_map]
  simp only [Function.comp_def, List.append_assoc, List.cons_append]

/-! ### The word itself -/

/-- No part that ends the word starts it, but for the whole word. -/
def IsUnbordered (word : List Char) : Prop :=
  ∀ part ∈ word.tails, part <+: word → part = [] ∨ part = word

instance (word : List Char) : Decidable (IsUnbordered word) :=
  inferInstanceAs (Decidable (∀ part ∈ word.tails, part <+: word → part = [] ∨ part = word))

/-- An occurrence that starts in front of the word would end in it. -/
theorem not_prefix_append_word (hword : IsUnbordered word) (hne : s ≠ []) (h : ¬ word <:+: s)
    (t : List Char) : ¬ word <+: s ++ (word ++ t) := by
  rintro ⟨rest, heq⟩
  rcases List.append_eq_append_iff.1 heq with ⟨more, hs, -⟩ | ⟨more, hmore, htail⟩
  · exact h ⟨[], more, hs.symm⟩
  -- an occurrence at the front would overlap the word in a border of it
  · have hsuffix : more <:+ word := ⟨s, hmore.symm⟩
    have hprefix : more <+: word :=
      List.prefix_of_prefix_length_le ⟨rest, htail.symm⟩ (List.prefix_append word t) hsuffix.length_le
    rcases hword more ((List.mem_tails more word).2 hsuffix) hprefix with rfl | rfl
    · rw [List.append_nil] at hmore
      exact h (hmore ▸ List.infix_rfl)
    · exact hne (List.self_eq_append_left.1 hmore)

/-- A word stands for the first time behind a text that does not hold it. -/
theorem around?_append_word (hword : IsUnbordered word) (h : ¬ word <:+: s) (t : List Char) :
    around? word (s ++ (word ++ t)) = some (s, t) := by
  induction s with
  | nil => exact around?_of_after? (after?_append word t)
  | cons c s ih =>
    have hnone := after?_eq_none_iff.2 (not_prefix_append_word hword (List.cons_ne_nil c s) h t)
    rw [List.cons_append] at hnone ⊢
    rw [around?_cons_of_none hnone, ih fun hs => h (hs.trans (List.suffix_cons c s).isInfix),
      Option.map_some]

end QualityGate.Text
