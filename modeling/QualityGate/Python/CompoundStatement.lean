/-
Statements with suites.

A suite stands on the line of its colon, or is a block of deeper indented lines, or is empty.  The
words that go on with a statement (`elif`, `else`, `except`, `finally`) are keywords only behind a
suite that they can go on from.
-/
import QualityGate.Python.SimpleStatement

namespace QualityGate.Python

/-- The statements of a block, up to its end. -/
def blockStatements (self : Grammar) : Reader Pieces :=
  repeated do
    let l ← peek (.statement true)
    match l.token with
    | .dedent =>
      advance l
      return (l.extras, false)
    | .endOfText => unexpected l
    | _ => return (← self (.statement true), true)

/-- The suite behind a colon. -/
def suite (self : Grammar) : Reader Pieces := do
  let l ← peek .suite
  match l.token with
  | .newline =>
    advance l
    return l.extras ++ [.node .block .body l.first l.last "" []]
  | .indent =>
    advance l
    return l.extras ++ (Pieces.gather .block (← blockStatements self)).inRole .body
  | _ => return (Pieces.gather .block (← simpleLine self .suite)).inRole .body

/-- A colon and the suite behind it. -/
def colonSuite (self : Grammar) : Reader Pieces := do
  let colon ← operator .plain ":"
  return colon ++ (← suite self)

/-- Notes that a token starts a clause. -/
def startClause (l : Lexeme) : Reader Unit :=
  modify fun s => { s with clauseRow := l.first.row, lastRow := l.first.row }

/-- The clause that a word starts, if the next token is that word. -/
def clause? (ready : Ready) (w : String) (rest : Reader Pieces) : Reader Pieces := do
  let l ← peek ready
  if l.isWord w then
    startClause l
    let word ← take l .mark
    return Pieces.gather .phrase (word ++ (← rest))
  else return []

/-- An `else` clause, if there is one. -/
def elseClause (self : Grammar) (inBlock : Bool) : Reader Pieces :=
  clause? (.statement inBlock) "else" (colonSuite self)

/-- A condition and a suite. -/
def conditionSuite (self : Grammar) : Reader Pieces := do
  let condition ← self (.expression true .operand .plain)
  return condition ++ (← colonSuite self)

/-- The rest of an `if` statement. -/
def ifRest (self : Grammar) (inBlock : Bool) : Reader Pieces := do
  let first ← conditionSuite self
  let others ← repeated do
    let more ← clause? (.statement inBlock) "elif" (conditionSuite self)
    return (more, more ≠ [])
  return first ++ others ++ (← elseClause self inBlock)

/-- The rest of a `while` statement. -/
def whileRest (self : Grammar) (inBlock : Bool) : Reader Pieces := do
  let first ← conditionSuite self
  return first ++ (← elseClause self inBlock)

/-- The rest of a `for` statement. -/
def forRest (self : Grammar) (inBlock : Bool) : Reader Pieces := do
  let targets ← loopTargets self
  let inside ← keyword .plain "in"
  let iterated ← expressionList self .operand .plain
  let body ← colonSuite self
  return targets ++ inside ++ iterated ++ body ++ (← elseClause self inBlock)

/-- The rest of a `with` statement. -/
def withRest (self : Grammar) : Reader Pieces := do
  let items ← expressionList self .operand .plain
  return items ++ (← colonSuite self)

/-! ### Handlers -/

/-- The rest of a handler: what it handles, under which name, and its suite. -/
def handlerRest (self : Grammar) (group : Bool) : Reader Pieces := do
  let star ← if group then operator .plain "*" else pure []
  let l ← peek .operand
  let what ← if l.isOperator ":" ∧ ¬ group then pure [] else self (.expression true .operand .plain)
  let next ← peek .plain
  let name ←
    if what ≠ [] ∧ next.isOperator "," ∧ ¬ group then do
      let comma ← take next .mark
      pure (comma ++ (← self (.expression true .operand .plain)))
    else pure []
  return star ++ what ++ name ++ (← colonSuite self)

/-- The token starts a handler of groups. -/
def startsGroup (l : Lexeme) : Bool :=
  l.isWord "except" && l.after.rest.head? = some '*'

/-- The rest of a `try` statement that starts at a row: its suite, handlers of one sort or a
`finally` clause, and what can follow the handlers. -/
def tryRest (self : Grammar) (inBlock : Bool) (row : Nat) : Reader Pieces := do
  let body ← colonSuite self
  let first ← peek { Ready.plain with handler := true }
  let behind : Ready := { Ready.statement inBlock with handler := true }
  let finish : Reader Pieces := clause? behind "finally" (colonSuite self)
  if first.isWord "except" then
    let group := startsGroup first
    let handlers ← repeated do
      let l ← peek behind
      if l.isWord "except" ∧ startsGroup l = group then
        return (← clause? behind "except" (handlerRest self group), true)
      else return ([], false)
    let other ← elseClause self inBlock
    return body ++ handlers ++ other ++ (← finish)
  else if first.isWord "finally" then
    return body ++ (← clause? { Ready.plain with handler := true } "finally" (colonSuite self))
  else failAt .error row

/-! ### Definitions -/

/-- The rest of a class definition. -/
def classRest (self : Grammar) : Reader Pieces := do
  let name ← identifier .plain
  let l ← peek .plain
  let types ← if l.isOperator "[" then typeParameters self l else pure []
  let l ← peek .plain
  let bases ← if l.isOperator "(" then arguments self l else pure []
  return name.inRole .name ++ types ++ bases ++ (← colonSuite self)

/-- The rest of a function definition. -/
def functionRest (self : Grammar) : Reader Pieces := do
  let name ← identifier .plain
  let l ← peek .plain
  let types ← if l.isOperator "[" then typeParameters self l else pure []
  let l ← peek .plain
  if l.isOperator "(" then
    let opening ← openBracket l ')'
    let names ← parameters self true ")" .closing
    let closing ← closeBracket .closing ")"
    let arrow ← peek .plain
    let result ←
      if arrow.isOperator "->" then do
        let mark ← take arrow .mark
        pure (mark ++ (← self (.typeExpression false .plain)))
      else pure []
    let header := Pieces.gather .phrase (opening ++ names ++ closing)
    return name.inRole .name ++ types ++ header ++ result ++ (← colonSuite self)
  else unexpected l

/-- A definition or a loop behind `async`, or a definition behind decorators. -/
def definition? (self : Grammar) (l : Lexeme) : Option (Reader Pieces) :=
  if l.isWord "class" then
    some do
      let word ← take l .mark
      return Pieces.gather .classDefinition (word ++ (← classRest self))
  else if l.isWord "def" then
    some do
      let word ← take l .mark
      return Pieces.gather .functionDefinition (word ++ (← functionRest self))
  else if l.isWord "async" ∧ (lexeme .ending l.after).isWord "def" then
    some do
      let asyncWord ← take l .asyncKeyword
      let word ← keyword .plain "def"
      return Pieces.gather .functionDefinition (asyncWord ++ word ++ (← functionRest self))
  else none

/-- A decorator: an expression on a line of its own.  One that does not end with its line is blamed on
the line of its sign. -/
def decorator (self : Grammar) (l : Lexeme) : Reader Pieces := do
  let mark ← take l .mark
  let value ← self (.expression true .operand .ending)
  let stop ← peek .ending
  if stop.token = .newline then
    advance stop
    return Pieces.gather .phrase (mark ++ value ++ stop.extras)
  else failAt .error l.first.row

/-- Decorators and the definition behind them. -/
def decorated (self : Grammar) (l : Lexeme) : Reader Pieces := do
  let first ← decorator self l
  let others ← repeated do
    let l ← peek .plain
    if l.isOperator "@" then return (← decorator self l, true) else return ([], false)
  let l ← peek .plain
  match definition? self l with
  | some rest =>
    startClause l
    return Pieces.gather .phrase (first ++ others ++ (← rest))
  | none => unexpected l

/-! ### Matches -/

/-- The word `match`, what is matched, which starts on the same line, and the colon, where a suite opens
behind them. -/
def matchHeader (self : Grammar) (l : Lexeme) : Reader Pieces := do
  let word ← take l .mark
  let subjects ← expressionList self Ready.ending.orOperand .plain
  let colon ← operator .plain ":"
  let next ← peek { Ready.plain with newline := true, indent := true }
  if next.token = .newline ∨ next.token = .indent then return word ++ subjects ++ colon
  else unexpected next

/-- One case: its patterns, perhaps a guard, and its suite. -/
def caseRest (self : Grammar) : Reader Pieces := do
  let first ← self (.casePattern .operand .plain)
  let others ← repeated do
    let l ← peek .plain
    if l.isOperator "," then
      let comma ← take l .mark
      let next ← peek .operand
      if next.isOperator ":" ∨ next.isWord "if" then return (comma, false)
      else return (comma ++ (← self (.casePattern .operand .plain)), true)
    else return ([], false)
  let guarded ← clause? .plain "if" (self (.expression true .operand .plain))
  return first ++ others ++ guarded ++ (← colonSuite self)

/-- The cases of a match, up to the end of the block. -/
def matchBody (self : Grammar) : Reader Pieces := do
  let l ← peek { Ready.plain with newline := true, indent := true }
  advance l
  if l.token = .newline then return l.extras ++ [.node .block .body l.first l.last "" []]
  else
    let cases ← repeated do
      let l ← peek { Ready.plain with dedent := true }
      if l.token = .dedent then
        advance l
        return (l.extras, false)
      else if l.isWord "case" then
        startClause l
        let word ← take l .mark
        return (Pieces.gather .phrase (word ++ (← caseRest self)), true)
      else unexpected l
    return l.extras ++ (Pieces.gather .block cases).inRole .body

/-! ### Statements -/

/-- The rest of a statement that a keyword starts, if the word is such a keyword. -/
def compoundRest? (self : Grammar) (inBlock : Bool) (l : Lexeme) : Option (Reader Pieces) :=
  if l.isWord "if" then some (ifRest self inBlock)
  else if l.isWord "while" then some (whileRest self inBlock)
  else if l.isWord "for" then some (forRest self inBlock)
  else if l.isWord "with" then some (withRest self)
  else if l.isWord "try" then some (tryRest self inBlock l.first.row)
  else none

/-- A loop or a `with` statement behind `async`. -/
def asyncRest? (self : Grammar) (inBlock : Bool) (l : Lexeme) : Option (Reader Pieces) :=
  let next := lexeme .ending l.after
  if l.isWord "async" ∧ (next.isWord "for" ∨ next.isWord "with") then
    (compoundRest? self inBlock next).map fun rest => do
      let word ← take next .mark
      return word ++ (← rest)
  else none

/-- A statement; one of one line brings all statements of its line. -/
def statement (self : Grammar) (inBlock : Bool) : Reader Pieces := do
  let ready := Ready.statement inBlock
  let l ← peek ready
  startClause l
  match definition? self l with
  | some definition => definition
  | none =>
    if l.isOperator "@" then decorated self l
    else
      match (compoundRest? self inBlock l).orElse fun _ => asyncRest? self inBlock l with
      | some rest =>
        let word ← take l .mark
        return Pieces.gather .phrase (word ++ (← rest))
      | none =>
        let matched ← if l.isWord "match" then attempt (matchHeader self l) else pure none
        match matched with
        | some header => return Pieces.gather .phrase (header ++ (← matchBody self))
        | none => simpleLine self ready

end QualityGate.Python
