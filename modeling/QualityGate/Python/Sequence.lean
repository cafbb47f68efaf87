/-
Expressions with commas between them, and `yield`, which can stand for such a sequence.
-/
import QualityGate.Python.Reader

namespace QualityGate.Python

/-- One or more expressions with commas between them, and perhaps one behind the last. -/
def expressionList (self : Grammar) (start follow : Ready) : Reader Pieces := do
  let first ← self (.expression true start follow)
  let others ← repeated do
    let l ← peek follow
    if l.isOperator "," then
      let comma ← take l .mark
      if startsOperand (← peek follow.orOperand) then
        return (comma ++ (← self (.expression true follow.orOperand follow)), true)
      else return (comma, false)
    else return ([], false)
  return first ++ others

/-- A `yield` and what it yields: nothing, another generator, or a sequence. -/
def yielding (self : Grammar) (l : Lexeme) (follow : Ready) : Reader Pieces := do
  let word ← take l .mark
  let next ← peek follow.orOperand
  let value ←
    if next.isWord "from" then do
      let source ← take next .mark
      pure (source ++ (← self (.expression true .operand follow)))
    else if startsOperand next then expressionList self follow.orOperand follow
    else pure []
  return Pieces.gather .phrase (word ++ value)

/-- A sequence of expressions, or a `yield`. -/
def expressionsOrYield (self : Grammar) (start follow : Ready) : Reader Pieces := do
  let l ← peek start
  if l.isWord "yield" then yielding self l follow else expressionList self start follow

end QualityGate.Python
