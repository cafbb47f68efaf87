/-
The end of the summary for the console.

Whatever the results say, the summary ends in the same seven lines: a heading, a row for each count,
an empty line and the verdict (`lines_text`).  A row holds its count as its last number, so the counts
can be read back from the text (`totals?_text`), and the last line tells whether a result failed
(`getLast?_lines_text`).
-/
import QualityGate.Proofs.Text.Cut
import QualityGate.Proofs.Text.Digit
import QualityGate.Report.Summary

namespace QualityGate

open Text

/-! ### Painted spans -/

namespace Span

/-- The characters of painted spans. -/
def painted (colour : Bool) (spans : List Span) : List Char :=
  spans.flatMap fun s => (s.paint colour).toList

theorem toList_paintAll (colour : Bool) (spans : List Span) :
    (paintAll colour spans).toList = painted colour spans := by
  rw [paintAll, String.toList_join, List.flatMap_map, painted]

/-- Spans are painted one after another. -/
theorem painted_append (colour : Bool) (front back : List Span) :
    painted colour (front ++ back) = painted colour front ++ painted colour back :=
  List.flatMap_append

theorem painted_cons (colour : Bool) (s : Span) (spans : List Span) :
    painted colour (s :: spans) = (s.paint colour).toList ++ painted colour spans := rfl

theorem painted_nil (colour : Bool) : painted colour [] = [] := rfl

theorem paint_plain (colour : Bool) (text : String) : paint colour (.plain text) = text := rfl

end Span

namespace Summary

open QualityGate.Span

variable {colour : Bool} {results : List CheckResult}

/-! ### The lines of the totals -/

/-- The heading of the totals. -/
def headingLine (colour : Bool) : List Char :=
  ((Span.styled .heading "Pipeline Summary").paint colour).toList

/-- What stands before the count in a row. -/
def rowStart (colour : Bool) (status : Status) : List Char :=
  ' ' :: ' ' :: ((Span.styled (penOf status) (padRight 8 status.label)).paint colour).toList

/-- The row of a count. -/
def rowLine (colour : Bool) (status : Status) (count : Nat) : List Char :=
  rowStart colour status ++ ((padLeft 3 count.repr).toList ++ ' ' :: ' ' :: (symbol status).toList)

/-- The row of the sum. -/
def totalLine (total : Nat) : List Char :=
  "  TOTAL   ".toList ++ (padLeft 3 total.repr).toList

/-- The line of the verdict. -/
def verdictLine (colour passed : Bool) : List Char :=
  ((verdictSpan passed).paint colour).toList

/-- The lines that every summary ends in. -/
def totalLines (colour : Bool) (t : Tally) (passed : Bool) : List (List Char) :=
  [headingLine colour, rowLine colour .passed t.passed, rowLine colour .failed t.failed,
    rowLine colour .skipped t.skipped, totalLine t.total, [], verdictLine colour passed]

theorem isInLine_padLeft (n : Nat) : IsInLine (padLeft 3 n.repr).toList := by
  rw [padLeft, String.toList_append, String.toList_ofList]
  refine isInLine_append (fun c hc => ?_) (isInLine_repr n)
  rw [List.eq_of_mem_replicate hc]
  decide

theorem isInLine_headingLine (colour : Bool) : IsInLine (headingLine colour) := by
  cases colour <;> decide

/-- The row of a status is one line. -/
theorem isInLine_rowLine (colour : Bool) (status : Status) (count : Nat) :
    IsInLine (rowLine colour status count) := by
  have hstart : IsInLine (rowStart colour status) := by
    cases colour <;> cases status <;> decide
  have hend : IsInLine (' ' :: ' ' :: (symbol status).toList) := by
    cases status <;> decide
  exact isInLine_append hstart (isInLine_append (isInLine_padLeft count) hend)

theorem isInLine_totalLine (total : Nat) : IsInLine (totalLine total) :=
  isInLine_append (by decide) (isInLine_padLeft total)

theorem isInLine_verdictLine (colour passed : Bool) : IsInLine (verdictLine colour passed) := by
  cases colour <;> cases passed <;> decide

/-- So are the lines behind the rows. -/
theorem isInLine_totalLines {t : Tally} {passed : Bool} :
    ∀ line ∈ totalLines colour t passed, IsInLine line := by
  have hempty : IsInLine [] := List.forall_mem_nil _
  simp [totalLines, isInLine_headingLine, isInLine_rowLine, isInLine_totalLine,
    isInLine_verdictLine, hempty]

/-- The spans of a status make its row. -/
theorem painted_countSpans (colour : Bool) (status : Status) (count : Nat) :
    painted colour (countSpans status count) = rowLine colour status count ++ ['\n'] := by
  have hblanks : "  ".toList = [' ', ' '] := rfl
  have hend : (padLeft 3 count.repr ++ "  " ++ symbol status ++ "\n").toList =
      (padLeft 3 count.repr).toList ++ (' ' :: ' ' :: (symbol status).toList) ++ ['\n'] := by
    rw [String.toList_append, String.toList_append, String.toList_append, hblanks]
    simp
  simp only [countSpans, painted_cons, painted_nil, paint_plain, hblanks, hend, rowLine, rowStart,
    List.append_nil, List.append_assoc, List.cons_append, List.nil_append]

theorem toList_totalRow (total : Nat) :
    ("  " ++ padRight 8 "TOTAL" ++ padLeft 3 total.repr ++ "\n").toList =
      totalLine total ++ ['\n'] := by
  have hstart : ("  " ++ padRight 8 "TOTAL").toList = "  TOTAL   ".toList := by decide
  rw [String.toList_append, String.toList_append, hstart]
  rfl

/-- The spans of the totals make their lines. -/
theorem painted_totalSpans (colour : Bool) (results : List CheckResult) :
    painted colour (totalSpans results) =
      (totalLines colour (Tally.ofResults results) (verdict results)).flatMap fun line =>
        line ++ ['\n'] := by
  have hfeed : "\n".toList = ['\n'] := rfl
  simp only [totalSpans, painted_append, painted_countSpans, painted_cons, painted_nil, paint_plain,
    toList_totalRow, hfeed, totalLines, headingLine, verdictLine, List.flatMap_cons,
    List.flatMap_nil, List.append_assoc, List.append_nil, List.nil_append]

/-- A span that ends a line ends what is painted up to it. -/
theorem painted_concat_feed (colour : Bool) (front : List Span) :
    painted colour (front ++ [.plain "\n"]) = painted colour front ++ ['\n'] := by
  have hfeed : "\n".toList = ['\n'] := rfl
  rw [painted_append, painted_cons, painted_nil, paint_plain, hfeed, List.append_nil]

/-- What comes before the totals ends a line. -/
theorem exists_painted_front (colour : Bool) (results : List CheckResult) :
    ∃ front, painted colour ([.styled .heading "Detailed Check Results", .plain "\n", .plain "\n"] ++
      results.flatMap resultSpans) = front ++ ['\n'] := by
  rcases List.eq_nil_or_concat results with rfl | ⟨before, last, rfl⟩
  · -- without results the heading comes last
    exact ⟨_, painted_concat_feed colour [.styled .heading "Detailed Check Results", .plain "\n"]⟩
  · -- the last result ends in an empty line
    rw [List.concat_eq_append, List.flatMap_append, List.flatMap_singleton, resultSpans,
      ← List.append_assoc, ← List.append_assoc]
    exact ⟨_, painted_concat_feed colour _⟩

/-- The summary ends in the lines of the totals. -/
theorem lines_text (colour : Bool) (results : List CheckResult) :
    ∃ front, lines (text colour results).toList =
      front ++ totalLines colour (Tally.ofResults results) (verdict results) := by
  obtain ⟨front, hfront⟩ := exists_painted_front colour results
  refine ⟨(splitOn '\n' front).map dropReturn, ?_⟩
  rw [text, toList_paintAll, spans, painted_append, hfront, List.append_assoc, List.singleton_append,
    lines_append_cons, painted_totalSpans, lines_flatMap isInLine_totalLines]

/-! ### What the totals say -/

/-- The counts and their sum, as the rows before the verdict have them. -/
def totals? (s : List Char) : Option (Tally × Nat) :=
  match (lines s).reverse with
  | _ :: _ :: total :: skipped :: failed :: passed :: _ => do
    return (⟨← lastNumber? passed, ← lastNumber? failed, ← lastNumber? skipped⟩,
      ← lastNumber? total)
  | _ => none

theorem endsDigits_blanks {s : List Char} (h : EndsDigits s) (n : Nat) :
    EndsDigits (List.replicate n ' ' ++ s) := by
  cases n with
  | zero => exact h
  | succ n =>
    intro c hc
    obtain rfl := Option.some.inj hc
    rfl

/-- A padded number is the last one when no digit follows it. -/
theorem lastNumber?_padLeft {front back : List Char} (n : Nat) (hfront : EndsDigits front.reverse)
    (hback : back.all (fun c => !isAsciiDigit c) = true) :
    lastNumber? (front ++ ((padLeft 3 n.repr).toList ++ back)) = some n := by
  have hblanks := endsDigits_blanks hfront (3 - n.repr.length)
  rw [← List.reverse_replicate, ← List.reverse_append] at hblanks
  rw [padLeft, String.toList_append, String.toList_ofList, List.append_assoc, ← List.append_assoc]
  exact lastNumber?_append n hblanks hback

/-- The last number in the row of a status is its count. -/
theorem lastNumber?_rowLine (colour : Bool) (status : Status) (count : Nat) :
    lastNumber? (rowLine colour status count) = some count := by
  refine lastNumber?_padLeft count ?_ ?_
  · cases colour <;> cases status <;> decide
  · cases status <;> decide

/-- The last number in the row of the totals is their count. -/
theorem lastNumber?_totalLine (total : Nat) : lastNumber? (totalLine total) = some total := by
  have hfront : EndsDigits "  TOTAL   ".toList.reverse := by decide
  have hread := lastNumber?_padLeft total hfront List.all_nil
  rwa [List.append_nil] at hread

/-- The counts can be read back from the text. -/
theorem totals?_text (colour : Bool) (results : List CheckResult) :
    totals? (text colour results).toList =
      some (Tally.ofResults results, (Tally.ofResults results).total) := by
  obtain ⟨front, hlines⟩ := lines_text colour results
  simp only [totals?, hlines, List.reverse_append, totalLines, List.reverse_cons, List.reverse_nil,
    List.nil_append, List.cons_append, lastNumber?_rowLine, lastNumber?_totalLine]
  rfl

/-- The last line of the text is that of the verdict. -/
theorem getLast?_lines_text (colour : Bool) (results : List CheckResult) :
    (lines (text colour results).toList).getLast? = some (verdictLine colour (verdict results)) := by
  obtain ⟨front, hlines⟩ := lines_text colour results
  rw [hlines, List.getLast?_append]
  rfl

/-- The line of the verdict tells a passed run from a failed one. -/
theorem verdictLine_eq_iff {passed : Bool} :
    verdictLine colour passed = verdictLine colour true ↔ passed = true := by
  cases colour <;> cases passed <;> decide

end Summary

end QualityGate
