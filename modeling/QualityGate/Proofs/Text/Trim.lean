/-
Trimming, and the trimmed lines of a text.

A trimmed text is a contiguous part of the text, and neither end of it is a blank.  A carriage return is
a blank, so for the trimmed lines it does not matter whether one ends a line; and if empty ones are
left out, it does not matter whether a line feed ends the last line (`contentLines_eq`).  So the
trimmed lines of a text that is put together at a line feed are those of its parts
(`contentLines_append_cons`), whatever the parts end in.
-/
import Mathlib.Data.List.DropRight
import QualityGate.Proofs.Text.Cut
import QualityGate.Text.Blank

namespace QualityGate.Text

variable {c : Char} {s : List Char}

/-! ### Trimming -/

theorem trimEnd_eq_rdropWhile (s : List Char) : trimEnd s = s.rdropWhile isBlank := rfl

theorem trimEnd_isPrefix (s : List Char) : trimEnd s <+: s :=
  List.rdropWhile_prefix isBlank s

/-- Cutting at the end leaves the first character, if it leaves any. -/
theorem head?_trimEnd (h : (trimEnd s).head? = some c) : s.head? = some c := by
  obtain ⟨rest, hrest⟩ := List.head?_eq_some_iff.1 h
  have hprefix := trimEnd_isPrefix s
  rw [hrest] at hprefix
  obtain ⟨more, rfl⟩ := hprefix
  rfl

/-- A trimmed text is a part of the text. -/
theorem trim_isInfix (s : List Char) : trim s <:+: s :=
  (trimEnd_isPrefix _).isInfix.trans (List.dropWhile_suffix isBlank).isInfix

/-- A trimmed text does not end in a blank. -/
theorem getLast?_trim (h : (trim s).getLast? = some c) : isBlank c = false := by
  have hne : trim s ≠ [] := by
    rintro hnil
    rw [hnil] at h
    cases h
  rw [List.getLast?_eq_some_getLast hne] at h
  obtain rfl := Option.some.inj h
  exact Bool.eq_false_iff.2 (List.rdropWhile_last_not isBlank _ hne)

/-- A trimmed text does not start with a blank. -/
theorem head?_trim (h : (trim s).head? = some c) : isBlank c = false := by
  have hfirst : (trimStart s).head? = some c := head?_trimEnd h
  have hstart := List.head?_dropWhile_not isBlank s
  rw [← trimStart, hfirst] at hstart
  simpa using hstart

/-- Trimming a trimmed text changes nothing. -/
theorem trim_trim (s : List Char) : trim (trim s) = trim s :=
  trim_eq_self (fun _ => head?_trim) fun _ => getLast?_trim

/-- Nothing is cut at the start behind what is no blank. -/
theorem trimStart_append (hfirst : s.head? = some c) (hc : isBlank c = false) (t : List Char) :
    trimStart (s ++ t) = s ++ t := by
  obtain ⟨rest, rfl⟩ := List.head?_eq_some_iff.1 hfirst
  exact trimStart_cons_of_not_blank (rest ++ t) hc

/-- Nothing is cut at the end in front of what is no blank. -/
theorem trimEnd_append (hlast : s.getLast? = some c) (hc : isBlank c = false) (t : List Char) :
    trimEnd (s ++ t) = s ++ trimEnd t := by
  induction t using List.reverseRecOn with
  | nil =>
    obtain ⟨init, rfl⟩ := List.getLast?_eq_some_iff.1 hlast
    rw [List.append_nil, trimEnd_nil, List.append_nil, trimEnd_eq_rdropWhile,
      List.rdropWhile_concat_neg _ _ _ (by simp [hc])]
  | append_singleton t e ih =>
    rw [trimEnd_eq_rdropWhile, trimEnd_eq_rdropWhile, ← List.append_assoc]
    -- trimming stops at the end, unless a blank stands there
    by_cases he : isBlank e = true
    · rw [List.rdropWhile_concat_pos _ _ _ he, List.rdropWhile_concat_pos _ _ _ he]
      exact ih
    · rw [List.rdropWhile_concat_neg _ _ _ he, List.rdropWhile_concat_neg _ _ _ he,
        List.append_assoc]

/-- A text without blanks at its ends stays: blanks before it are cut, and what follows it is cut at its
end. -/
theorem trim_append {before : List Char} {d : Char} (hbefore : ∀ c ∈ before, isBlank c = true)
    (hfirst : s.head? = some c) (hc : isBlank c = false) (hlast : s.getLast? = some d)
    (hd : isBlank d = false) (t : List Char) : trim (before ++ s ++ t) = s ++ trimEnd t := by
  have hstart : trimStart (before ++ (s ++ t)) = trimStart (s ++ t) :=
    List.dropWhile_append_of_pos hbefore
  rw [trim, List.append_assoc, hstart, trimStart_append hfirst hc, trimEnd_append hlast hd]

/-- A blank at the end is cut. -/
theorem trim_concat (h : isBlank c = true) (s : List Char) : trim (s ++ [c]) = trim s := by
  -- if only blanks stand before it, then it is cut at the start, and at the end otherwise
  rw [trim, trim, trimStart, trimStart, List.dropWhile_append]
  split
  · next hempty =>
    rw [List.isEmpty_iff.1 hempty, List.dropWhile_cons_of_pos h]
    rfl
  · rw [trimEnd_eq_rdropWhile, trimEnd_eq_rdropWhile, List.rdropWhile_concat_pos isBlank _ _ h]

theorem trim_dropReturn (line : List Char) : trim (dropReturn line) = trim line := by
  rw [dropReturn]
  split
  · next hlast =>
    have hline : line.dropLast ++ ['\r'] = line := List.dropLast_append_getLast? _ hlast
    rw [← trim_concat (c := '\r') (by decide) line.dropLast, hline]
  · rfl

/-! ### Trimmed lines -/

/-- The trimmed lines that are not empty. -/
def contentLines (s : List Char) : List (List Char) :=
  ((lines s).map trim).filter (· ≠ [])

/-- They are the pieces between the line feeds, trimmed. -/
theorem contentLines_eq (s : List Char) :
    contentLines s = ((splitOn '\n' s).map trim).filter (· ≠ []) := by
  have hclosed : ((splitOn '\n' s).dropLast.map dropReturn).map trim =
      (splitOn '\n' s).dropLast.map trim := by
    rw [List.map_map]
    exact List.map_congr_left fun line _ => trim_dropReturn line
  have hpieces := List.dropLast_concat_getLast (splitOn_ne_nil '\n' s)
  rw [contentLines, lines, List.getLast?_eq_some_getLast (splitOn_ne_nil '\n' s)]
  generalize (splitOn '\n' s).getLast (splitOn_ne_nil '\n' s) = last at hpieces
  conv_rhs => rw [← hpieces, List.map_append, List.filter_append, ← hclosed]
  -- an empty last piece is no line, and its trimmed form is left out
  cases last with
  | nil => exact (List.append_nil _).symm
  | cons c rest =>
    dsimp only
    rw [List.map_append, List.filter_append]

/-- Texts with a line feed between them have their trimmed lines one after the other. -/
theorem contentLines_append_cons (s t : List Char) :
    contentLines (s ++ '\n' :: t) = contentLines s ++ contentLines t := by
  rw [contentLines_eq, contentLines_eq, contentLines_eq, splitOn_append_cons, List.map_append,
    List.filter_append]

/-- What is taken from the trimmed lines is not taken from empty ones. -/
theorem filterMap_contentLines {α : Type} {f : List Char → Option α} (h : f [] = none) (s : List Char) :
    (contentLines s).filterMap f = (lines s).filterMap fun line => f (trim line) := by
  rw [contentLines, List.filterMap_filter, List.filterMap_map]
  congr 1
  funext line
  by_cases hline : trim line = []
  · simp [hline, h]
  · simp [hline]

end QualityGate.Text
