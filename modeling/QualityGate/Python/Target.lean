/-
What can be assigned to.

A target is read as an expression and then taken as a pattern: a name, an attribute, a subscript, a
starred one of these, or a bracketed sequence of targets.  Anything else cannot be assigned to.
-/
import QualityGate.Python.Reader

namespace QualityGate.Python

namespace Tree

/-- A name, an attribute or a subscript. -/
def isSimpleTarget (t : Tree) : Bool :=
  t.kind = .identifier || t.kind = .attribute || t.kind = .subscript

mutual

/-- The expression as a pattern. -/
def toPattern? : Tree → Option Tree
  | node .identifier r p q s cs => some (node .identifier r p q s cs)
  | node .attribute r p q s cs => some (node .attribute r p q s cs)
  | node .subscript r p q s cs => some (node .subscript r p q s cs)
  | node .listSplat r p q s cs =>
    if cs.all fun c => Pieces.isExtra c || c.kind = .mark || isSimpleTarget c then
      some (node .listSplatPattern r p q s cs)
    else none
  | node .tuple r p q s cs => (toPatterns? cs).map fun ds => node .tuplePattern r p q s ds
  | node .parenthesized r p q s cs => (toPatterns? cs).map fun ds => node .tuplePattern r p q s ds
  | node .list r p q s cs => (toPatterns? cs).map fun ds => node .listPattern r p q s ds
  | _ => none

/-- The nodes between brackets as patterns; brackets, commas and extra leaves stay. -/
def toPatterns? : List Tree → Option (List Tree)
  | [] => some []
  | t :: rest =>
    if t.kind = .mark ∨ Pieces.isExtra t then (toPatterns? rest).map (t :: ·)
    else
      match toPattern? t, toPatterns? rest with
      | some u, some us => some (u :: us)
      | _, _ => none

end

end Tree

namespace Pieces

/-- A sequence of expressions as the left side of an assignment: a pattern, or a list of patterns if
there is a comma. -/
def toTarget? (pieces : Pieces) : Option Pieces :=
  (Tree.toPatterns? pieces).map fun patterns =>
    if patterns.any fun t => t.kind = .mark then gather .patternList patterns else patterns

end Pieces

/-- One target, read as far as no operator goes on with it. -/
def target (self : Grammar) (start follow : Ready) : Reader Pieces := do
  let l ← peek start
  let pieces ← self (.primary start follow)
  match Tree.toPatterns? pieces with
  | some patterns => return patterns
  | none => unexpected l

/-- The targets of a loop, up to the word `in`. -/
def loopTargets (self : Grammar) : Reader Pieces := do
  let first ← target self .operand .plain
  let others ← repeated do
    let l ← peek .plain
    if l.isOperator "," then
      let comma ← take l .mark
      if (← peek .operand).isWord "in" then return (comma, false)
      else return (comma ++ (← target self .operand .plain), true)
    else return ([], false)
  return if others = [] then first else Pieces.gather .patternList (first ++ others)

end QualityGate.Python
