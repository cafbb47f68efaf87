/-
Statements of one line.

An expression statement is a sequence of expressions, an assignment, or a `yield`.  The right side of
an assignment can be an assignment again.  The words `print` and `exec` are names, except where an
operand follows them at the start of a statement: that is a statement of an older language, which is
refused.
-/
import QualityGate.Python.CasePattern

namespace QualityGate.Python

/-- An assignment operator that combines. -/
def isAugmenting (l : Lexeme) : Bool :=
  l.token = .operator &&
    ["+=", "-=", "*=", "/=", "//=", "%=", "@=", "**=", ">>=", "<<=", "&=", "|=", "^="].contains l.text

/-- A sequence of expressions, an assignment, or a `yield`. -/
def assigned (self : Grammar) (start follow : Ready) : Reader Pieces := do
  let items ← expressionsOrYield self start follow
  let l ← peek follow
  if l.isOperator "=" ∨ l.isOperator ":" ∨ isAugmenting l then
    match items.toTarget? with
    | none => unexpected l
    | some target =>
      let left := target.inRole .left
      let mark ← take l .mark
      if l.isOperator ":" then
        let note ← self (.typeExpression true follow)
        let next ← peek follow
        let value ←
          if next.isOperator "=" then do
            let equals ← take next .mark
            pure (equals ++ (← self (.assigned .operand follow)))
          else pure []
        return Pieces.gather .assignment (left ++ mark ++ note ++ value)
      else
        let value ← self (.assigned .operand follow)
        let kind := if l.isOperator "=" then Kind.assignment else .phrase
        return Pieces.gather kind (left ++ mark ++ value)
  else return items

/-- An expression statement. -/
def expressionStatement (self : Grammar) (start : Ready) : Reader Pieces := do
  return Pieces.gather .expressionStatement (← self (.assigned start .ending))

/-! ### Imports -/

/-- An imported name, and perhaps the name that it is given. -/
def importedName (start follow : Ready) : Reader Pieces := do
  let name ← dottedName start follow
  let next ← peek follow
  if next.isWord "as" then
    let word ← take next .mark
    return Pieces.gather .phrase (name ++ word ++ (← identifier .plain))
  else return Pieces.gather .phrase name

/-- Imported names with commas between them; the last comma can stand alone. -/
def importList (follow : Ready) : Reader Pieces := do
  let first ← importedName .plain follow
  let others ← repeated do
    let l ← peek follow
    if l.isOperator "," then
      let comma ← take l .mark
      if (← peek follow).token = .word then
        return (comma ++ (← importedName follow follow), true)
      else return (comma, false)
    else return ([], false)
  return first ++ others

/-- The points before the name of a module. -/
def leadingPoints : Reader Pieces :=
  repeated do
    let l ← peek .plain
    if l.isOperator "." ∨ l.isOperator "..." then return (← take l .mark, true)
    else return ([], false)

/-- The rest of an import from a module.  The module of features to come has no modules below it, and
all of them cannot be imported at once. -/
def importFrom : Reader Pieces := do
  let points ← leadingPoints
  let next ← peek .plain
  let future := next.isWord "__future__" ∧ points = []
  let name ←
    if points ≠ [] ∧ next.isWord "import" then pure []
    else if future then take next .mark
    else dottedName .plain .plain
  let word ← keyword .plain "import"
  let l ← peek .plain
  let names ←
    if l.isOperator "*" ∧ ¬ future then take l .mark
    else if l.isOperator "(" then do
      let opening ← openBracket l ')'
      let names ← importList .closing
      pure (opening ++ names ++ (← closeBracket .closing ")"))
    else importList .ending
  return points ++ name ++ word ++ names

/-! ### Other statements -/

/-- Names with commas between them. -/
def nameList : Reader Pieces :=
  repeated do
    let name ← identifier .plain
    let l ← peek .ending
    if l.isOperator "," then return (name ++ (← take l .mark), true) else return (name, false)

/-- Expressions with commas between them and none behind the last. -/
def conditionList (self : Grammar) : Reader Pieces :=
  repeated do
    let one ← self (.expression true .operand .ending)
    let l ← peek .ending
    if l.isOperator "," then return (one ++ (← take l .mark), true) else return (one, false)

/-- A sequence of expressions, or nothing. -/
def optionalList (self : Grammar) : Reader Pieces := do
  if startsOperand (← peek Ready.ending.orOperand) then
    expressionList self Ready.ending.orOperand .ending
  else return []

/-- What is raised, and its cause. -/
def raised (self : Grammar) : Reader Pieces := do
  let l ← peek Ready.ending.orOperand
  let what ← if l.isWord "from" then pure [] else optionalList self
  let next ← peek .ending
  if next.isWord "from" then
    let word ← take next .mark
    return what ++ word ++ (← self (.expression true .operand .ending))
  else return what

/-- A type with a new name, which starts on the line of the word `type`. -/
def typeAlias (self : Grammar) (l : Lexeme) : Reader Pieces := do
  let word ← take l .mark
  let next ← peek Ready.ending.orOperand
  let left ← if next.token = .newline then unexpected next else self (.typeExpression true .plain)
  let equals ← operator .plain "="
  return Pieces.gather .phrase (word ++ left ++ equals ++ (← self (.typeExpression true .ending)))

/-- The kind of refused statement that the word starts, if an operand follows it. -/
def refused? (l : Lexeme) : Option Kind :=
  let next := lexeme Ready.ending.orOperand l.after
  let quotesOrName : Bool :=
    match next.token with
    | .stringStart _ => true
    | .word => !continuesExpression next.text
    | _ => false
  if l.isWord "print" then
    let negated := next.isWord "not" ∧ ¬ (lexeme .operand next.after).isWord "in"
    if quotesOrName ∨ negated ∨ next.token = .number ∨ next.isOperator ">>" ∨ next.isOperator "\x7b" ∨
        next.isOperator "~" ∨ next.isOperator "..." then some .printStatement
    else none
  else if l.isWord "exec" ∧ quotesOrName then some .execStatement
  else none

/-- The rest of a statement that a keyword starts, if the word is such a keyword. -/
def afterKeyword? (self : Grammar) (w : String) : Option (Reader Pieces) :=
  if w = "import" then some (importList .ending)
  else if w = "from" then some importFrom
  else if w = "assert" then some (conditionList self)
  else if w = "return" then some (optionalList self)
  else if w = "del" then some (expressionList self .operand .ending)
  else if w = "raise" then some (raised self)
  else if w = "global" ∨ w = "nonlocal" then some nameList
  else if w = "pass" ∨ w = "break" ∨ w = "continue" then some (pure [])
  else none

/-- A statement of one line. -/
def simpleStatement (self : Grammar) (start : Ready) : Reader Pieces := do
  let l ← peek start
  match refused? l with
  | some k => failAt k l.first.row
  | none =>
    if l.token ≠ .word then expressionStatement self start
    else
      match afterKeyword? self l.text with
      | some rest =>
        let word ← take l .mark
        return Pieces.gather .phrase (word ++ (← rest))
      | none =>
        if l.isWord "type" then
          match ← attempt (typeAlias self l) with
          | some pieces => return pieces
          | none => expressionStatement self start
        else expressionStatement self start

/-- Statements with semicolons between them, up to the end of the line. -/
def simpleLine (self : Grammar) (start : Ready) : Reader Pieces := do
  let first ← simpleStatement self start
  let others ← repeated do
    let l ← peek .ending
    if l.isOperator ";" then
      let mark ← take l .mark
      if (← peek Ready.ending.orOperand).token = .newline then return (mark, false)
      else return (mark ++ (← simpleStatement self Ready.ending.orOperand), true)
    else return ([], false)
  let stop ← peek .ending
  if stop.token = .newline then
    advance stop
    return first ++ others ++ stop.extras
  else unexpected stop

end QualityGate.Python
