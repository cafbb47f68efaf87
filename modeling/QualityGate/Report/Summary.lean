/-
The summary for the console: every result with its details, the counts, and the verdict.
-/
import QualityGate.Check.Result
import QualityGate.Report.Style
import QualityGate.Text.Cut

namespace QualityGate.Summary

/-- The sign of a status. -/
def symbol : Status → String
  | .passed => "✓"
  | .failed => "✗"
  | .skipped => "⚠"

/-- The pen of a status. -/
def penOf : Status → Pen
  | .passed => .pass
  | .failed => .fail
  | .skipped => .skip

/-- The text, filled up with blanks behind it. -/
def padRight (width : Nat) (text : String) : String :=
  text ++ String.ofList (List.replicate (width - text.length) ' ')

/-- The text, filled up with blanks before it. -/
def padLeft (width : Nat) (text : String) : String :=
  String.ofList (List.replicate (width - text.length) ' ') ++ text

/-- One line of details; empty lines are not indented. -/
def detailLine (line : List Char) : List Span :=
  if line = [] then [.plain "\n"]
  else [.plain "    ", .styled .details (String.ofList line), .plain "\n"]

/-- One result: its status line, its details, and an empty line. -/
def resultSpans (r : CheckResult) : List Span :=
  [.styled (penOf r.status) (symbol r.status), .plain " ", .styled .checkName r.name, .plain ": ",
    .styled (penOf r.status) r.status.label, .plain "\n"] ++
  (Text.lines r.details.toList).flatMap detailLine ++ [.plain "\n"]

/-- One row of counts. -/
def countSpans (status : Status) (count : Nat) : List Span :=
  [.plain "  ", .styled (penOf status) (padRight 8 status.label),
    .plain (padLeft 3 count.repr ++ "  " ++ symbol status ++ "\n")]

/-- The line that states the verdict. -/
def verdictSpan (passed : Bool) : Span :=
  if passed then .styled .pass "✓ All quality checks passed!"
  else .styled .fail "✗ Some quality checks failed. See details above."

/-- The counts and the verdict. -/
def totalSpans (results : List CheckResult) : List Span :=
  let t := Tally.ofResults results
  [.styled .heading "Pipeline Summary", .plain "\n"] ++
  countSpans .passed t.passed ++ countSpans .failed t.failed ++ countSpans .skipped t.skipped ++
  [.plain ("  " ++ padRight 8 "TOTAL" ++ padLeft 3 t.total.repr ++ "\n"), .plain "\n",
    verdictSpan (verdict results), .plain "\n"]

/-- The whole summary. -/
def spans (results : List CheckResult) : List Span :=
  [.styled .heading "Detailed Check Results", .plain "\n", .plain "\n"] ++
  results.flatMap resultSpans ++ totalSpans results

/-- The whole summary as it is written to a terminal. -/
def text (colour : Bool) (results : List CheckResult) : String :=
  Span.paintAll colour (spans results)

end QualityGate.Summary
