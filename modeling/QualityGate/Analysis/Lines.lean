/-
Counting lines: one for every line feed, and one more for a rest that no line feed ends.
-/

namespace QualityGate

/-- The number of lines of a file. -/
def countLines (bytes : List UInt8) : Nat :=
  let feeds := bytes.count 10
  match bytes.getLast? with
  | none => feeds
  | some last => if last = 10 then feeds else feeds + 1

end QualityGate
