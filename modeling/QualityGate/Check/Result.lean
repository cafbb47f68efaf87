/-
Results of checks, their tally and the verdict over them.

A run passes when no result failed; skipped results never fail it.  The tally counts the results of
each status, so a run passes exactly when the tally's count of failures is zero.
-/

namespace QualityGate

/-- How a check ended. -/
inductive Status where
  | passed
  | failed
  | skipped
  deriving DecidableEq

/-- The status as it is written. -/
def Status.label : Status → String
  | .passed => "PASSED"
  | .failed => "FAILED"
  | .skipped => "SKIPPED"

/-- One result of one check. -/
structure CheckResult where
  name : String
  status : Status
  details : String
  deriving DecidableEq

/-- Number of results of each status. -/
structure Tally where
  passed : Nat
  failed : Nat
  skipped : Nat
  deriving DecidableEq

namespace Tally

/-- Counts the results of each status. -/
def ofResults (results : List CheckResult) : Tally where
  passed := results.countP (·.status = .passed)
  failed := results.countP (·.status = .failed)
  skipped := results.countP (·.status = .skipped)

/-- Number of results counted. -/
def total (t : Tally) : Nat :=
  t.passed + t.failed + t.skipped

end Tally

/-- No result failed. -/
def verdict (results : List CheckResult) : Bool :=
  results.all (·.status ≠ .failed)

/-- The status that a verdict is shown as. -/
def Status.ofVerdict (passed : Bool) : Status :=
  if passed then .passed else .failed

/-! ### Verdict and tally -/

theorem failed_ofResults_eq_zero_iff (results : List CheckResult) :
    (Tally.ofResults results).failed = 0 ↔ verdict results = true := by
  simp [Tally.ofResults, verdict, List.countP_eq_zero]

theorem total_ofResults (results : List CheckResult) :
    (Tally.ofResults results).total = results.length := by
  induction results with
  | nil => rfl
  | cons r rest ih =>
    simp only [Tally.total, Tally.ofResults, List.countP_cons, List.length_cons] at ih ⊢
    rcases h : r.status with - | - | - <;> simp <;> omega

end QualityGate
