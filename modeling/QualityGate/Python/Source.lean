/-
Reading of a whole source text.

`Tree.ofText` gives a tree for every text.  The tree of a text that cannot be read is a module with
nothing but the node of the fault, on the row that is blamed.
-/
import QualityGate.Python.CompoundStatement

namespace QualityGate.Python

/-- Reads a rule of the grammar, to a depth of at most `bound` rules inside each other. -/
def read (bound : Nat) (rule : Rule) : Reader Pieces :=
  match bound with
  | 0 => do failAt .error (← get).lastRow
  | bound + 1 =>
    let self := read bound
    match rule with
    | .expression conditional start follow => expression self conditional start follow
    | .primary start follow => primary self start follow
    | .typeExpression constraint follow => typeExpression self constraint follow
    | .casePattern start follow => casePattern self start follow
    | .assigned start follow => assigned self start follow
    | .formatPart => formatPart self
    | .statement inBlock => statement self inBlock

/-- The statements of a module, up to the end of the text. -/
def moduleStatements (self : Grammar) : Reader Pieces :=
  repeated do
    let l ← peek (.statement false)
    if l.token = .endOfText then return (l.extras, false)
    else return (← self (.statement false), true)

/-- The text without the mark of its byte order. -/
def withoutMark (s : List Char) : List Char :=
  match s with
  | '\ufeff' :: rest => rest
  | _ => s

/-- A module with the given nodes. -/
def Tree.module (pieces : List Tree) : Tree :=
  .node .module .other ⟨0, 0⟩ ((pieces.getLast?.map Tree.last).getD ⟨0, 0⟩) "" pieces

/-- The node that stands for a fault. -/
def Tree.ofFault (f : Fault) : Tree :=
  .node f.kind .other ⟨f.row, 0⟩ ⟨f.row, 0⟩ "" []

/-- The tree of a source text. -/
def Tree.ofText (s : List Char) : Tree :=
  let text := withoutMark s
  match (moduleStatements (read (10 * text.length + 20))).run (Scan.ofText text) with
  | .ok (pieces, _) => .module pieces
  | .error fault => .module [.ofFault fault]

end QualityGate.Python
