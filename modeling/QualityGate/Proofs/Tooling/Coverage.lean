/-
The percentage that a report of coverage states.

A total row is the word `TOTAL` and three columns, each some blanks and some digits, with a percent sign
behind the last one.  Where the runs of blanks and digits begin and end is not left open: no blank is a
digit, so each run is as long as it can be, and at one position stands at most one row
(`TotalRow.StandsAt.unique`).  Taking the runs one after another, each as long as it goes, finds that row
if there is one (`rowDigits?_eq_some_iff`).

So what is read from a report is the percentage of the first row in it, and nothing if that row states
none (`percentage_of_first_row`).
-/
import Mathlib.Data.List.TakeWhile
import QualityGate.Proofs.Text.Digit
import QualityGate.Proofs.Text.Occurrence
import QualityGate.Tooling.Coverage

namespace QualityGate.Coverage

open Text

variable {s rest : List Char}

/-! ### Columns and rows -/

/-- A column of a report: blanks and the digits behind them. -/
structure Column where
  blanks : List Char
  digits : List Char

namespace Column

/-- The column as it is written. -/
def text (c : Column) : List Char :=
  c.blanks ++ c.digits

/-- Neither run of the column is empty, and they are of blanks and of digits. -/
structure IsFormed (c : Column) : Prop where
  blanks_ne_nil : c.blanks ≠ []
  digits_ne_nil : c.digits ≠ []
  blank : ∀ b ∈ c.blanks, isBlank b = true
  digit : ∀ d ∈ c.digits, isDigit d = true

instance (c : Column) : Decidable c.IsFormed :=
  decidable_of_iff
    (c.blanks ≠ [] ∧ c.digits ≠ [] ∧ c.blanks.all isBlank = true ∧ c.digits.all isDigit = true)
    ⟨fun ⟨h₁, h₂, h₃, h₄⟩ => ⟨h₁, h₂, List.all_eq_true.1 h₃, List.all_eq_true.1 h₄⟩,
      fun ⟨h₁, h₂, h₃, h₄⟩ => ⟨h₁, h₂, List.all_eq_true.2 h₃, List.all_eq_true.2 h₄⟩⟩

end Column

/-- The columns of a total row: statements, those that were not run, and the percentage of the others. -/
structure TotalRow where
  statements : Column
  missed : Column
  percent : Column

/-- The text starts with the row. -/
structure TotalRow.StandsAt (row : TotalRow) (s : List Char) : Prop where
  text : "TOTAL".toList ++ row.statements.text ++ row.missed.text ++ row.percent.text ++ ['%'] <+: s
  statements : row.statements.IsFormed
  missed : row.missed.IsFormed
  percent : row.percent.IsFormed

instance (row : TotalRow) (s : List Char) : Decidable (row.StandsAt s) :=
  decidable_of_iff
    ("TOTAL".toList ++ row.statements.text ++ row.missed.text ++ row.percent.text ++ ['%'] <+: s ∧
      row.statements.IsFormed ∧ row.missed.IsFormed ∧ row.percent.IsFormed)
    ⟨fun ⟨h₁, h₂, h₃, h₄⟩ => ⟨h₁, h₂, h₃, h₄⟩, fun ⟨h₁, h₂, h₃, h₄⟩ => ⟨h₁, h₂, h₃, h₄⟩⟩

/-- The row stands at the position, and no row stands before it. -/
structure IsFirstRow (s : List Char) (i : Nat) (row : TotalRow) : Prop where
  stands : row.StandsAt (s.drop i)
  first : ∀ j < i, ∀ other : TotalRow, ¬ other.StandsAt (s.drop j)

/-! ### Runs -/

section Runs

variable {p : Char → Bool} {run : List Char}

/-- A run is read to its end. -/
theorem run?_append (hne : run ≠ []) (hrun : ∀ c ∈ run, p c = true)
    (hrest : ∀ c, rest.head? = some c → p c = false) : run? p (run ++ rest) = some (run, rest) := by
  obtain ⟨htake, hdrop⟩ := takeWhile_run hrun hrest
  rw [run?, htake, hdrop]
  cases run with
  | nil => exact absurd rfl hne
  | cons c more => rfl

/-- What is read as a run is one, and stands in front. -/
theorem of_run?_eq_some (h : run? p s = some (run, rest)) :
    s = run ++ rest ∧ run ≠ [] ∧ ∀ c ∈ run, p c = true := by
  rw [run?] at h
  split at h
  · cases h
  · next hne =>
    obtain ⟨rfl, rfl⟩ := Prod.mk.inj (Option.some.inj h)
    exact ⟨List.takeWhile_append_dropWhile.symm, hne, fun c hc => List.mem_takeWhile_imp hc⟩

end Runs

/-- A column is read as its two runs, if no digit follows it. -/
theorem Column.IsFormed.run?_text {c : Column} (h : c.IsFormed)
    (hrest : ∀ d, rest.head? = some d → isDigit d = false) :
    run? isBlank (c.text ++ rest) = some (c.blanks, c.digits ++ rest) ∧
      run? isDigit (c.digits ++ rest) = some (c.digits, rest) := by
  refine ⟨?_, run?_append h.digits_ne_nil h.digit hrest⟩
  rw [text, List.append_assoc]
  apply run?_append h.blanks_ne_nil h.blank
  -- the first digit is no blank, so the blanks end there
  obtain ⟨d, more, hdigits⟩ := List.exists_cons_of_ne_nil h.digits_ne_nil
  intro c hc
  rw [hdigits] at hc
  obtain rfl := Option.some.inj hc
  have hdigit := h.digit d (hdigits ▸ List.mem_cons_self)
  rw [Bool.eq_false_iff]
  intro hblank
  rw [isDigit_of_isBlank hblank] at hdigit
  cases hdigit

/-- What starts with a column does not start with a digit. -/
theorem Column.IsFormed.head?_text {c : Column} (h : c.IsFormed) (rest : List Char) :
    ∀ d, (c.text ++ rest).head? = some d → isDigit d = false := by
  obtain ⟨b, more, hblanks⟩ := List.exists_cons_of_ne_nil h.blanks_ne_nil
  intro d hd
  rw [text, hblanks] at hd
  obtain rfl := Option.some.inj hd
  exact isDigit_of_isBlank (h.blank b (hblanks ▸ List.mem_cons_self))

/-- Two columns at one position are the same, if no digit follows either. -/
theorem Column.IsFormed.unique {c c' : Column} {rest rest' : List Char} (h : c.IsFormed)
    (h' : c'.IsFormed) (hrest : ∀ d, rest.head? = some d → isDigit d = false)
    (hrest' : ∀ d, rest'.head? = some d → isDigit d = false)
    (heq : c.text ++ rest = c'.text ++ rest') : c = c' ∧ rest = rest' := by
  obtain ⟨hblanks, hdigits⟩ := h.run?_text hrest
  obtain ⟨hblanks', hdigits'⟩ := h'.run?_text hrest'
  -- both columns are what the reader finds in front of the one text
  rw [heq, hblanks'] at hblanks
  obtain ⟨hfirst, htail⟩ := Prod.mk.inj (Option.some.inj hblanks)
  rw [← htail, hdigits'] at hdigits
  obtain ⟨hsecond, hend⟩ := Prod.mk.inj (Option.some.inj hdigits)
  refine ⟨?_, hend.symm⟩
  cases c
  cases c'
  exact congr (congrArg Column.mk hfirst.symm) hsecond.symm

/-! ### One position -/

variable {row : TotalRow}

theorem isDigit_head?_percent (rest : List Char) :
    ∀ d, ('%' :: rest).head? = some d → isDigit d = false := by
  intro d hd
  obtain rfl := Option.some.inj hd
  decide

/-- The parts of a row, one behind the other. -/
theorem TotalRow.StandsAt.exists_rest (h : row.StandsAt s) :
    ∃ rest, s = "TOTAL".toList ++ (row.statements.text ++ (row.missed.text ++
      (row.percent.text ++ '%' :: rest))) := by
  obtain ⟨rest, htext⟩ := h.text
  refine ⟨rest, ?_⟩
  rw [← htext]
  simp only [List.append_assoc, List.singleton_append]

/-- At one position stands at most one row. -/
theorem TotalRow.StandsAt.unique {other : TotalRow} (h : row.StandsAt s) (h' : other.StandsAt s) :
    row = other := by
  obtain ⟨rest, hrow⟩ := h.exists_rest
  obtain ⟨rest', hother⟩ := h'.exists_rest
  -- behind the word the columns are compared from left to right
  have hword := List.append_cancel_left (hrow.symm.trans hother)
  obtain ⟨hstatements, hword⟩ := h.statements.unique h'.statements
    (h.missed.head?_text _) (h'.missed.head?_text _) hword
  obtain ⟨hmissed, hword⟩ := h.missed.unique h'.missed
    (h.percent.head?_text _) (h'.percent.head?_text _) hword
  obtain ⟨hpercent, -⟩ := h.percent.unique h'.percent
    (isDigit_head?_percent rest) (isDigit_head?_percent rest') hword
  cases row
  cases other
  exact congr (congr (congrArg TotalRow.mk hstatements) hmissed) hpercent

/-- A row that stands in front is read. -/
theorem rowDigits?_of_standsAt (h : row.StandsAt s) : rowDigits? s = some row.percent.digits := by
  obtain ⟨rest, rfl⟩ := h.exists_rest
  obtain ⟨hblanks₁, hdigits₁⟩ := h.statements.run?_text (h.missed.head?_text
    (row.percent.text ++ '%' :: rest))
  obtain ⟨hblanks₂, hdigits₂⟩ := h.missed.run?_text (h.percent.head?_text ('%' :: rest))
  obtain ⟨hblanks₃, hdigits₃⟩ := h.percent.run?_text (isDigit_head?_percent rest)
  rw [rowDigits?, after?_append]
  simp only [Option.bind_eq_bind, Option.bind_some, hblanks₁, hdigits₁, hblanks₂, hdigits₂, hblanks₃,
    hdigits₃, List.head?_cons, if_true]

/-- Two runs one behind the other are a column. -/
theorem exists_column {t blanks digits : List Char} (hblanks : run? isBlank s = some (blanks, t))
    (hdigits : run? isDigit t = some (digits, rest)) :
    ∃ c : Column, c.IsFormed ∧ c.digits = digits ∧ s = c.text ++ rest := by
  obtain ⟨rfl, hne, hblank⟩ := of_run?_eq_some hblanks
  obtain ⟨rfl, hne', hdigit⟩ := of_run?_eq_some hdigits
  exact ⟨⟨blanks, digits⟩, ⟨hne, hne', hblank, hdigit⟩, rfl, (List.append_assoc _ _ _).symm⟩

/-- What is read is a row that stands in front. -/
theorem exists_standsAt {digits : List Char} (h : rowDigits? s = some digits) :
    ∃ row : TotalRow, row.StandsAt s ∧ row.percent.digits = digits := by
  simp only [rowDigits?, Option.bind_eq_bind, Option.bind_eq_some_iff, Prod.exists] at h
  obtain ⟨s₀, hword, _, s₁, hblanks₁, _, s₂, hdigits₁, _, s₃, hblanks₂, _, s₄, hdigits₂, _, s₅, hblanks₃,
    last, rest, hdigits₃, hend⟩ := h
  -- each pair of runs is a column
  obtain ⟨first, hfirst, -, rfl⟩ := exists_column hblanks₁ hdigits₁
  obtain ⟨second, hsecond, -, rfl⟩ := exists_column hblanks₂ hdigits₂
  obtain ⟨third, hthird, hlast, rfl⟩ := exists_column hblanks₃ hdigits₃
  obtain ⟨hpercent, hsame⟩ := Option.ite_none_right_eq_some.1 hend
  obtain rfl := Option.some.inj hsame
  obtain ⟨more, rfl⟩ := List.head?_eq_some_iff.1 hpercent
  refine ⟨⟨first, second, third⟩, ⟨⟨more, ?_⟩, hfirst, hsecond, hthird⟩, hlast⟩
  rw [eq_append_of_after? hword]
  simp only [List.append_assoc, List.singleton_append]

/-- The search at one position finds the row that stands there. -/
theorem rowDigits?_eq_some_iff {digits : List Char} :
    rowDigits? s = some digits ↔ ∃ row : TotalRow, row.StandsAt s ∧ row.percent.digits = digits := by
  constructor
  · exact exists_standsAt
  · rintro ⟨row, hrow, rfl⟩
    exact rowDigits?_of_standsAt hrow

/-! ### The first row -/

theorem not_standsAt_nil (row : TotalRow) : ¬ row.StandsAt [] := by
  intro h
  obtain ⟨rest, heq⟩ := h.exists_rest
  cases heq

theorem isFirstRow_zero : IsFirstRow s 0 row ↔ row.StandsAt s :=
  ⟨fun h => h.stands, fun h => ⟨h, fun _ hj => absurd hj (Nat.not_lt_zero _)⟩⟩

/-- The first row behind a character is the first one if none stands at the character. -/
theorem isFirstRow_succ {c : Char} {i : Nat} :
    IsFirstRow (c :: s) (i + 1) row ↔
      (∀ other : TotalRow, ¬ other.StandsAt (c :: s)) ∧ IsFirstRow s i row := by
  constructor
  · intro h
    refine ⟨h.first 0 (Nat.succ_pos i), h.stands, ?_⟩
    intro j hj
    exact h.first (j + 1) (Nat.succ_lt_succ hj)
  · rintro ⟨hhere, hstands, hfirst⟩
    refine ⟨hstands, ?_⟩
    intro j hj
    cases j with
    | zero => exact hhere
    | succ j => exact hfirst j (Nat.lt_of_succ_lt_succ hj)

/-- No two rows are first. -/
theorem IsFirstRow.unique {other : TotalRow} {i j : Nat} (h : IsFirstRow s i row)
    (h' : IsFirstRow s j other) : i = j ∧ row = other := by
  rcases Nat.lt_trichotomy i j with hlt | rfl | hgt
  · exact absurd h.stands (h'.first i hlt row)
  · exact ⟨rfl, h.stands.unique h'.stands⟩
  · exact absurd h'.stands (h.first j hgt other)

/-- The search over all positions finds the first row. -/
theorem digits?_eq_some_iff {digits : List Char} :
    digits? s = some digits ↔ ∃ i row, IsFirstRow s i row ∧ row.percent.digits = digits := by
  induction s with
  | nil =>
    refine iff_of_false nofun ?_
    rintro ⟨i, row, hrow, -⟩
    have hstands := hrow.stands
    rw [List.drop_nil] at hstands
    exact not_standsAt_nil row hstands
  | cons c s ih =>
    rw [digits?]
    rcases hhere : rowDigits? (c :: s) with - | found
    · -- nothing stands here, so the first row is the first one behind
      have hnone : ∀ other : TotalRow, ¬ other.StandsAt (c :: s) := by
        intro other hother
        rw [rowDigits?_of_standsAt hother] at hhere
        cases hhere
      refine ih.trans ⟨?_, ?_⟩
      · rintro ⟨i, row, hrow, hdigits⟩
        exact ⟨i + 1, row, isFirstRow_succ.2 ⟨hnone, hrow⟩, hdigits⟩
      · rintro ⟨i, row, hrow, hdigits⟩
        cases i with
        | zero => exact absurd (isFirstRow_zero.1 hrow) (hnone row)
        | succ i => exact ⟨i, row, (isFirstRow_succ.1 hrow).2, hdigits⟩
    · -- the row that stands here is the first one, and no other row stands here
      obtain ⟨row, hrow, rfl⟩ := rowDigits?_eq_some_iff.1 hhere
      constructor
      · intro h
        exact ⟨0, row, isFirstRow_zero.2 hrow, Option.some.inj h⟩
      · rintro ⟨i, other, hother, rfl⟩
        obtain ⟨-, rfl⟩ := (isFirstRow_zero.2 hrow).unique hother
        rfl

/-- The percentage is the number that the digits denote, if 32 bits hold it. -/
theorem percentage?_eq_some_iff {report : String} {n : Nat} :
    percentage? report = some n ↔
      ∃ digits, digits? report.toList = some digits ∧ DenotesNat digits n ∧ n < Nat.pow 2 32 := by
  simp only [percentage?, Option.bind_eq_bind, Option.bind_eq_some_iff, readNat?_eq_some_iff]
  constructor
  · rintro ⟨digits, hdigits, m, hm, hfits⟩
    obtain ⟨hlt, hsame⟩ := Option.ite_none_right_eq_some.1 hfits
    obtain rfl := Option.some.inj hsame
    exact ⟨digits, hdigits, hm, hlt⟩
  · rintro ⟨digits, hdigits, hn, hlt⟩
    exact ⟨digits, hdigits, n, hn, if_pos hlt⟩

/-- A report states the percentage of its first total row: its last digits, which have to be ASCII digits
and may have zeros in front, denote the number, and the number has at most 32 bits.  At each position
stands at most one row; and if the first row denotes no such number, the report states none, whatever
stands behind that row. -/
theorem percentage_of_first_row (report : String) :
    (∀ n, percentage? report = some n ↔
      ∃ i row, IsFirstRow report.toList i row ∧ DenotesNat row.percent.digits n ∧ n ≤ Nat.pow 2 32 - 1) ∧
    (∀ i, ∀ row other : TotalRow,
      row.StandsAt (report.toList.drop i) → other.StandsAt (report.toList.drop i) → row = other) ∧
    ∀ i row, IsFirstRow report.toList i row →
      (∀ n, DenotesNat row.percent.digits n → Nat.pow 2 32 - 1 < n) → percentage? report = none := by
  have hread (n : Nat) : percentage? report = some n ↔
      ∃ i row, IsFirstRow report.toList i row ∧ DenotesNat row.percent.digits n ∧ n ≤ Nat.pow 2 32 - 1 := by
    rw [percentage?_eq_some_iff]
    constructor
    · rintro ⟨digits, hdigits, hn, hlt⟩
      obtain ⟨i, row, hrow, rfl⟩ := digits?_eq_some_iff.1 hdigits
      exact ⟨i, row, hrow, hn, Nat.le_pred_of_lt hlt⟩
    · rintro ⟨i, row, hrow, hn, hle⟩
      exact ⟨_, digits?_eq_some_iff.2 ⟨i, row, hrow, rfl⟩, hn, Nat.lt_of_le_pred (Nat.pow_pos Nat.two_pos) hle⟩
  refine ⟨hread, fun i row other hrow hother => hrow.unique hother, ?_⟩
  intro i row hrow hlarge
  rw [Option.eq_none_iff_forall_ne_some]
  intro n hn
  -- a number that is read would come from the same row
  obtain ⟨j, other, hother, hdenotes, hle⟩ := (hread n).1 hn
  obtain ⟨-, rfl⟩ := hrow.unique hother
  exact absurd hle (Nat.not_le.2 (hlarge n hdenotes))

/-- Behind a first row whose percentage has too many bits another row does not count, and a word that
stands twice is no obstacle. -/
theorem percentage_of_overflowing_row :
    let s := "TOTALTOTAL 10 2\n4294967296%\nTOTAL 10 2 80%"
    let row : TotalRow := ⟨⟨[' '], ['1', '0']⟩, ⟨[' '], ['2']⟩, ⟨['\n'], "4294967296".toList⟩⟩
    IsFirstRow s.toList 5 row ∧ (∀ n, DenotesNat row.percent.digits n → Nat.pow 2 32 - 1 < n) ∧
      percentage? s = none := by
  intro s row
  have hnone : ∀ j < 5, rowDigits? (s.toList.drop j) = none := by decide +kernel
  have hfirst : IsFirstRow s.toList 5 row := by
    refine ⟨by decide +kernel, ?_⟩
    intro j hj other hother
    exact nomatch (hnone j hj).symm.trans (rowDigits?_of_standsAt hother)
  have hlarge : ∀ n, DenotesNat row.percent.digits n → Nat.pow 2 32 - 1 < n := by
    intro n hn
    rw [← hn.natOfDigits_eq]
    decide
  exact ⟨hfirst, hlarge, (percentage_of_first_row s).2.2 5 row hfirst hlarge⟩

example : percentage? "TOTAL 10\t2 75\nTOTAL\n10 2 0075%" = some 75 := by decide +kernel

end QualityGate.Coverage
