/-
The percentage of the coverage in the view of a result's details.

The coverage is judged by the percentage that the tool reports, and by nothing else.  The details then
open with a sentence that states this percentage, and what the tool wrote stands behind that sentence.
The view takes the first percentage of the first line that speaks of coverage.  That line is the sentence,
and the stated percentage is the first one in it, whatever stands behind (`coverageOf?_of_statement`).

A percentage has at most 32 bits, so it is kept exactly.  So the report agrees with the check
(`coverage_reported_as_judged`).
-/
import Mathlib.Data.Bool.AllAny
import QualityGate.Proofs.Decimal.Exact
import QualityGate.Proofs.Text.Casing
import QualityGate.Proofs.Tooling.Coverage
import QualityGate.Report.Details

namespace QualityGate

open Text

namespace Details

variable {raw line front back : List Char} {more : List (List Char)}

/-! ### The first percentage of a line -/

theorem percentHere?_of_not_digit {c : Char} (h : isDigit c = false) (s : List Char) :
    percentHere? (c :: s) = none := by
  rw [percentHere?, List.takeWhile_cons_of_neg (by rw [h]; exact Bool.false_ne_true)]
  rfl

/-- What holds no digit is passed over. -/
theorem percentDigits?_append (h : ∀ c ∈ front, isDigit c = false) (s : List Char) :
    percentDigits? (front ++ s) = percentDigits? s := by
  induction front with
  | nil => rfl
  | cons c front ih =>
    obtain ⟨hc, hfront⟩ := List.forall_mem_cons.1 h
    rw [List.cons_append, percentDigits?, percentHere?_of_not_digit hc]
    exact ih hfront

/-- A run of digits in front of the sign is the percentage. -/
theorem percentDigits?_run {run : List Char} (hne : run ≠ []) (hrun : ∀ c ∈ run, isDigit c = true)
    (s : List Char) : percentDigits? (run ++ '%' :: s) = some (run, []) := by
  obtain ⟨htake, hdrop⟩ := takeWhile_run hrun (Coverage.isDigit_head?_percent s)
  have hhere : percentHere? (run ++ '%' :: s) = some (run, []) := by
    rw [percentHere?, htake, hdrop]
    exact if_neg hne
  obtain ⟨c, more, rfl⟩ := List.exists_cons_of_ne_nil hne
  rw [List.cons_append] at hhere ⊢
  rw [percentDigits?, hhere]

/-- The first percentage of a line is a natural if no digit stands before it. -/
theorem percent?_natural (n : Nat) (h : ∀ c ∈ front, isDigit c = false) (back : List Char) :
    percent? (front ++ (n.repr.toList ++ '%' :: back)) = some (.ofDigits false n.repr.toList [] 0) := by
  obtain ⟨hne, hall⟩ := isDigits_toDigits n
  rw [percent?, percentDigits?_append h, Nat.toList_repr, percentDigits?_run hne]
  · dsimp only
    rw [List.append_nil, if_pos (List.all_eq_true.2 hall)]
  · exact fun c hc => isDigit_of_isAsciiDigit (hall c hc)

/-- A natural below `2 ^ 53` is read exactly from its digits. -/
theorem value?_ofDigits_repr {n : Nat} (h : n < 2 ^ 53) :
    (Binary64.ofDigits false n.repr.toList [] 0).value? = some (n : ℚ) := by
  rw [Binary64.ofDigits, List.append_nil, Nat.toList_repr, natOfDigits_toDigits]
  refine (Binary64.value?_ofDecimal_natural false h).trans ?_
  rw [Binary64.signFactor, if_neg Bool.false_ne_true, one_mul]

/-! ### The line that speaks of coverage -/

/-- The coverage is that of the first line, if that line speaks of coverage. -/
theorem coverageOf?_of_lines (hlines : lines raw = line :: more)
    (h : contains "coverage is".toList (lower line) = true) : coverageOf? raw = percent? line := by
  have hfind : (line :: more).find? (fun l => contains "coverage is".toList (lower l)) = some line :=
    List.find?_cons_of_pos h
  rw [coverageOf?, hlines, hfind, Option.bind_some]

/-- Of details on one line the first percentage counts, if the line speaks of coverage. -/
theorem coverageOf?_of_notMem (hfeed : '\n' ∉ line) (hne : line ≠ [])
    (h : contains "coverage is".toList (lower line) = true) : coverageOf? line = percent? line :=
  coverageOf?_of_lines (lines_of_notMem hfeed hne) h

/-- The start of the sentence that states a percentage. -/
def statementStart : List Char :=
  "Test coverage is ".toList

theorem contains_lower_statementStart (s : List Char) :
    contains "coverage is".toList (lower (statementStart ++ s)) = true := by
  have hascii : ∀ c ∈ statementStart, c.toNat < 0x80 := List.all_iff_forall_prop.1 (by decide)
  rw [contains_iff, lower, lowerAfter_append_of_ascii hascii]
  have hword : "coverage is".toList <:+: statementStart.map Char.toLower := by decide
  exact hword.trans (List.prefix_append _ _).isInfix

/-- A percentage that the first line states is the coverage, whatever stands behind it. -/
theorem coverageOf?_of_statement {n : Nat}
    (h : lines raw = (statementStart ++ (n.repr.toList ++ '%' :: back)) :: more) :
    coverageOf? raw = some (.ofDigits false n.repr.toList [] 0) := by
  have hplain : ∀ c ∈ statementStart, isDigit c = false := List.all_iff_forall_prop.1 (by decide)
  rw [coverageOf?_of_lines h (contains_lower_statementStart _), percent?_natural n hplain]

end Details

/-! ### The result of the coverage check -/

namespace Tool

variable {answer : ToolAnswer} {min p : Nat}

/-- The sentence that states a percentage and how it compares with the minimum. -/
def statement (p min : Nat) (comparison : String) : List Char :=
  Details.statementStart ++ (p.repr.toList ++ '%' ::
    (", which ".toList ++ comparison.toList ++ min.repr.toList ++ "%.".toList))

theorem toList_statement (p min : Nat) (comparison : String) :
    ("Test coverage is " ++ p.repr ++ "%, which " ++ comparison ++ min.repr ++ "%.").toList =
      statement p min comparison := by
  simp only [String.toList_append, List.append_assoc, statement]
  rfl

/-- The sentence about the coverage is one line. -/
theorem isLine_statement (p min : Nat) (comparison : String) (h : IsInLine comparison.toList) :
    IsLine (statement p min comparison) := by
  have hstart : IsInLine Details.statementStart := by decide
  have hwhich : IsInLine ", which ".toList := by decide
  have hend : IsInLine "%.".toList := by decide
  have hsign : IsInLine ['%'] := by decide
  refine IsInLine.isLine ?_ (List.cons_ne_nil _ _)
  refine isInLine_append hstart (isInLine_append (isInLine_repr p) (isInLine_append hsign ?_))
  exact isInLine_append (isInLine_append (isInLine_append hwhich h) (isInLine_repr min)) hend

/-- A percentage that is enough passes, and the statement is all that is said. -/
theorem coverageResult_of_le (h : Coverage.percentage? answer.stdout = some p) (hmin : min ≤ p) :
    (coverageResult answer min).status = .passed ∧
      (coverageResult answer min).details.toList =
        statement p min "meets the minimum requirement of " := by
  simp only [coverageResult, h, if_pos hmin, toList_statement, true_and]

/-- A percentage that is not enough fails, and what the tool wrote stands below the statement. -/
theorem coverageResult_of_lt (h : Coverage.percentage? answer.stdout = some p) (hmin : p < min) :
    (coverageResult answer min).status = .failed ∧
      (coverageResult answer min).details.toList =
        statement p min "is below the minimum requirement of " ++ '\n' :: answer.stdout.toList := by
  have hfeed : "%.\n" = "%." ++ "\n" := rfl
  simp only [coverageResult, h, if_neg (Nat.not_le.2 hmin), true_and]
  rw [hfeed, ← String.append_assoc, String.toList_append, String.toList_append, toList_statement,
    List.append_assoc]
  rfl

/-- The check passes if and only if the minimum is reached. -/
theorem status_coverageResult (h : Coverage.percentage? answer.stdout = some p) (min : Nat) :
    ((coverageResult answer min).status = .passed ↔ min ≤ p) ∧
      ((coverageResult answer min).status = .failed ↔ p < min) := by
  rcases Nat.lt_or_ge p min with hlt | hge
  · rw [(coverageResult_of_lt h hlt).1]
    exact ⟨iff_of_false nofun (Nat.not_le.2 hlt), iff_of_true rfl hlt⟩
  · rw [(coverageResult_of_le h hge).1]
    exact ⟨iff_of_true rfl hge, iff_of_false nofun (Nat.not_lt.2 hge)⟩

/-- The first line of the details is the statement, whatever the tool wrote. -/
theorem lines_coverageResult (h : Coverage.percentage? answer.stdout = some p) (min : Nat) :
    ∃ comparison more, lines (coverageResult answer min).details.toList = statement p min comparison :: more := by
  rcases Nat.lt_or_ge p min with hlt | hge
  -- below the minimum the report of the tool follows the sentence
  · have hline := isLine_statement p min "is below the minimum requirement of " (by decide)
    rw [(coverageResult_of_lt h hlt).2]
    exact ⟨_, _, lines_line hline.notMem hline.getLast?_ne _⟩
  · have hline := isLine_statement p min "meets the minimum requirement of " (by decide)
    rw [(coverageResult_of_le h hge).2]
    exact ⟨_, _, lines_of_notMem hline.notMem hline.ne_nil⟩

/-- If the report of the coverage tool states a percentage, then the check passes exactly if it is at
least the minimum, whatever the exit code is; and the view of the result's details gives back this
percentage, whatever else the tool wrote. -/
theorem coverage_reported_as_judged (answer : ToolAnswer) (min : Nat) {p : Nat}
    (h : Coverage.percentage? answer.stdout = some p) :
    ((coverage.evaluate answer min).status = .passed ↔ min ≤ p) ∧
    ((coverage.evaluate answer min).status = .failed ↔ p < min) ∧
    ∃ c, (Details.parse coverage.checkName (coverage.evaluate answer min).details).coverage = some c ∧
      c.value? = some (p : ℚ) := by
  have hresult : coverage.evaluate answer min = coverageResult answer min := if_pos rfl
  obtain ⟨hpassed, hfailed⟩ := status_coverageResult h min
  rw [hresult]
  refine ⟨hpassed, hfailed, .ofDigits false p.repr.toList [] 0, ?_, ?_⟩
  · obtain ⟨comparison, more, hlines⟩ := lines_coverageResult h min
    rw [Details.parse, if_pos rfl]
    exact Details.coverageOf?_of_statement hlines
  · -- it has at most 32 bits, so no bit of it is lost
    obtain ⟨-, -, -, hlt⟩ := Coverage.percentage?_eq_some_iff.1 h
    exact Details.value?_ofDigits_repr (Nat.lt_of_lt_of_le hlt (by decide))

/-- Other percentages and another line that speaks of coverage do not count, nor does the exit code. -/
theorem coverage_reported_of_misleading_report :
    let answer : ToolAnswer :=
      ⟨some 2, "coverage is 99.5%\r\nTOTAL 7 1 100 5%\nTOTAL 20 5\t4294967295%\nCoverage is 3%", ""⟩
    Coverage.percentage? answer.stdout = some 4294967295 ∧
      (coverage.evaluate answer 80).status = .passed ∧
      ∃ c, (Details.parse coverage.checkName (coverage.evaluate answer 80).details).coverage = some c ∧
        c.value? = some (4294967295 : ℕ) := by
  intro answer
  have h : Coverage.percentage? answer.stdout = some 4294967295 := by decide +kernel
  obtain ⟨hpassed, -, hcoverage⟩ := coverage_reported_as_judged answer 80 h
  exact ⟨h, hpassed.2 (by decide), hcoverage⟩

end Tool

end QualityGate
