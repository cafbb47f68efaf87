/-
Chains of checks.

The checks of a chain run one after another, and their results are put together in that order.  The
first check that does not give results decides how the chain ends; no check behind it runs.
-/
import QualityGate.Check.Basic

namespace QualityGate

/-- Checks in the order in which they run. -/
abbrev Chain := List Check

/-- The outcome, with results put before its own. -/
def Outcome.behind (before : List CheckResult) : Outcome → Outcome
  | .results after => .results (before ++ after)
  | other => other

namespace Chain

/-- The names of the checks. -/
def names (chain : Chain) : List String :=
  chain.map Check.name

/-- Runs the checks. -/
def execute : Chain → Context → Traced Outcome
  | [], _ => .pure (.results [])
  | check :: rest, ctx => do
    match ← check.run ctx with
    | .results before => return (← execute rest ctx).behind before
    | other => return other

end Chain

end QualityGate
