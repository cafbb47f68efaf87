/-
Types, type parameters, and the parameters of functions.
-/
import QualityGate.Python.Target

namespace QualityGate.Python

/-- A starred type: the stars and a name. -/
def starredType (l : Lexeme) : Reader Pieces := do
  let stars ← take l .mark
  return Pieces.gather .phrase (stars ++ (← identifier .plain))

/-- Types between square brackets. -/
def typeParameters (self : Grammar) (l : Lexeme) : Reader Pieces := do
  let opening ← openBracket l ']'
  let first ← self (.typeExpression true .closing)
  let others ← repeated do
    let l ← peek .closing
    if l.isOperator "," then
      let comma ← take l .mark
      if (← peek .operandOrClosing).isOperator "]" then return (comma, false)
      else return (comma ++ (← self (.typeExpression true .closing)), true)
    else return ([], false)
  let closing ← closeBracket .closing "]"
  return Pieces.gather .phrase (opening ++ first ++ others ++ closing)

/-- A name with type parameters. -/
def genericType (self : Grammar) : Reader Pieces := do
  let name ← identifier .operand
  let l ← peek .plain
  if l.isOperator "[" then
    return Pieces.gather .phrase (name ++ (← typeParameters self l))
  else unexpected l

/-- A type: an expression, a starred name, or a generic type, and a constraint behind a colon where
there can be one. -/
def typeExpression (self : Grammar) (constraint : Bool) (follow : Ready) : Reader Pieces := do
  let l ← peek .operand
  let base ←
    if l.isOperator "**" then starredType l
    else do
      match ← attempt (self (.expression true .operand follow)) with
      | some pieces => pure pieces
      | none =>
        match ← attempt (genericType self) with
        | some pieces => pure pieces
        | none => self (.expression true .operand follow)
  let colon ← peek follow
  if constraint ∧ colon.isOperator ":" then
    let mark ← take colon .mark
    return Pieces.gather .phrase (base ++ mark ++ (← self (.typeExpression true follow)))
  else return base

/-- A default value behind an equals sign, if there is one. -/
def defaultValue (self : Grammar) (follow : Ready) : Reader Pieces := do
  let l ← peek follow
  if l.isOperator "=" then
    let mark ← take l .mark
    return mark ++ (← self (.expression true .operand follow))
  else return []

/-- A type behind a colon, if there is one and parameters can have types. -/
def typeNote (self : Grammar) (typed : Bool) (follow : Ready) : Reader Pieces := do
  let l ← peek follow
  if typed ∧ l.isOperator ":" then
    let mark ← take l .mark
    return mark ++ (← self (.typeExpression true follow))
  else return []

/-- What stands behind the stars of a parameter. -/
def starredName (self : Grammar) (follow : Ready) : Reader Pieces := do
  let l ← peek follow.orOperand
  let pieces ← self (.primary follow.orOperand follow)
  if (pieces.core?).any Tree.isSimpleTarget then return pieces else unexpected l

/-- One parameter.  The parameters of a `lambda` have no types, since a colon ends them. -/
def parameter (self : Grammar) (typed : Bool) (follow : Ready) : Reader Pieces := do
  let l ← peek follow
  if l.token = .word then do
    let name ← take l .identifier
    let note ← typeNote self typed follow
    return Pieces.gather .phrase (name ++ note ++ (← defaultValue self follow))
  else if l.isOperator "/" then take l .mark
  else if l.isOperator "**" then do
    let stars ← take l .mark
    let name ← starredName self follow
    return Pieces.gather .phrase (stars ++ name ++ (← typeNote self typed follow))
  else if l.isOperator "*" then do
    let star ← take l .mark
    if startsOperand (← peek follow.orOperand) then
      let name ← starredName self follow
      return Pieces.gather .phrase (star ++ name ++ (← typeNote self typed follow))
    else return star
  else if l.isOperator "(" then do
    let pattern ← target self follow follow
    return Pieces.gather .phrase (pattern ++ (← defaultValue self follow))
  else unexpected l

/-- Parameters with commas between them, up to the given end. -/
def parameters (self : Grammar) (typed : Bool) (stop : String) (follow : Ready) : Reader Pieces :=
  repeated do
    let l ← peek follow
    if l.isOperator stop then return ([], false)
    else
      let one ← parameter self typed follow
      let l ← peek follow
      if l.isOperator "," then return (one ++ (← take l .mark), true)
      else return (one, false)

end QualityGate.Python
