/-
Patterns of `match` statements.
-/
import QualityGate.Python.Expression

namespace QualityGate.Python

/-- Names with points between them. -/
def dottedName (ready follow : Ready) : Reader Pieces := do
  let first ← identifier ready
  let others ← repeated do
    let l ← peek follow
    if l.isOperator "." then
      let dot ← take l .mark
      return (dot ++ (← identifier .plain), true)
    else return ([], false)
  return if others = [] then first else Pieces.gather .phrase (first ++ others)

/-- Case patterns in brackets, with commas between them. -/
def casePatterns (self : Grammar) (l : Lexeme) (close : Char) : Reader Pieces := do
  let stop := String.ofList [close]
  let opening ← openBracket l close
  if (← peek .operandOrClosing).isOperator stop then closed .phrase opening [] stop
  else
    let first ← self (.casePattern .operandOrClosing .closing)
    let others ← furtherItems (self (.casePattern .operandOrClosing .closing)) stop
    closed .phrase opening (first ++ others) stop

/-- A number with a sign before it, and perhaps a second one behind a sign. -/
def numberPattern (l : Lexeme) (follow : Ready) : Reader Pieces := do
  let sign ← if l.isOperator "-" then take l .mark else pure []
  let number ← peek .plain
  if number.token ≠ .number then unexpected number
  else
    let first ← take number .literal
    let next ← peek follow
    if next.isOperator "+" ∨ next.isOperator "-" then
      let mark ← take next .mark
      let number ← peek .plain
      if number.token ≠ .number then unexpected number
      else return Pieces.gather .phrase (sign ++ first ++ mark ++ (← take number .literal))
    else return Pieces.gather .phrase (sign ++ first)

/-- A pattern with stars: the stars and a name. -/
def starPattern (l : Lexeme) : Reader Pieces := do
  let stars ← take l .mark
  return Pieces.gather .phrase (stars ++ (← identifier .plain))

/-- An item of a pattern in braces. -/
def keyPattern (self : Grammar) (start : Ready) : Reader Pieces := do
  let l ← peek start
  if l.isOperator "**" ∨ l.isOperator "*" then starPattern l
  else
    let key ← self (.casePattern start .plain)
    let colon ← operator .plain ":"
    return Pieces.gather .phrase (key ++ colon ++ (← self (.casePattern .operand .closing)))

/-- A pattern in braces. -/
def dictionaryPattern (self : Grammar) (l : Lexeme) : Reader Pieces := do
  let opening ← openBracket l '\x7d'
  if (← peek .operandOrClosing).isOperator "\x7d" then closed .phrase opening [] "\x7d"
  else
    let first ← keyPattern self .operandOrClosing
    let others ← furtherItems (keyPattern self .operandOrClosing) "\x7d"
    closed .phrase opening (first ++ others) "\x7d"

/-- A pattern that starts with a name: the name of a class with its patterns, a named pattern, or a
name. -/
def namePattern (self : Grammar) (start follow : Ready) : Reader Pieces := do
  let name ← dottedName start follow
  let next ← peek follow
  if next.isOperator "(" then
    return Pieces.gather .phrase (name ++ (← casePatterns self next ')'))
  else if next.isOperator "=" ∧ (name.core?).any (fun t => t.kind = .identifier) then
    let equals ← take next .mark
    return Pieces.gather .phrase (name ++ equals ++ (← self (.casePattern .operand follow)))
  else return name

/-- A pattern without alternatives. -/
def simplePattern (self : Grammar) (start follow : Ready) : Reader Pieces := do
  let l ← peek start
  match l.token with
  | .stringStart d => strings self l d follow
  | .number => numberPattern l follow
  | .word =>
    if ["True", "False", "None"].contains l.text then take l .literal
    else namePattern self start follow
  | _ =>
    if l.isOperator "-" then numberPattern l follow
    else if l.isOperator "*" ∨ l.isOperator "**" then starPattern l
    else if l.isOperator "(" then casePatterns self l ')'
    else if l.isOperator "[" then casePatterns self l ']'
    else if l.isOperator "\x7b" then dictionaryPattern self l
    else unexpected l

/-- A pattern: alternatives, and perhaps a name for what matches. -/
def casePattern (self : Grammar) (start follow : Ready) : Reader Pieces := do
  let first ← simplePattern self start follow
  let others ← repeated do
    let l ← peek follow
    if l.isOperator "|" then
      let bar ← take l .mark
      return (bar ++ (← simplePattern self .operand follow), true)
    else if l.isWord "as" then
      let word ← take l .mark
      return (word ++ (← identifier .plain), true)
    else return ([], false)
  return if others = [] then first else Pieces.gather .phrase (first ++ others)

end QualityGate.Python
