/-
Membership of a code point in a sorted table of ranges.  Character classes above ASCII are given as
such tables; the classes themselves are in the modules that are named for them.
-/

namespace QualityGate.Text

/-- Some range of the table holds `n`, ends included. -/
def inRanges (table : List (Nat × Nat)) (n : Nat) : Bool :=
  table.any fun r => r.1 ≤ n && n ≤ r.2

/-- Some stepped range `(first, last, step)` of the table holds `n`. -/
def inSteppedRanges (table : List (Nat × Nat × Nat)) (n : Nat) : Bool :=
  table.any fun r => r.1 ≤ n && n ≤ r.2.1 && (n - r.1) % r.2.2 == 0

end QualityGate.Text
