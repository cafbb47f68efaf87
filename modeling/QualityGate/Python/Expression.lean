/-
Expressions.

An operand is an atom with its calls, subscripts and attributes, or a sign or `await` before an
operand.  Operands are joined by operators and comparisons; behind such a chain an expression can go
on with `and`, `or`, `as` or a condition, each with an expression of its own.  Inside the clauses of a
comprehension an `if` starts the next clause, so no condition is read there.
-/
import QualityGate.Python.Literal
import QualityGate.Python.Parameter

namespace QualityGate.Python

/-! ### Brackets -/

/-- An item between brackets, and whether it is an expression on its own: only such a one can be the body
of a comprehension or a key. -/
structure Item where
  pieces : Pieces
  isExpression : Bool

/-- One element of a bracketed sequence: an expression, a starred one, or a `yield`. -/
def element (self : Grammar) (start : Ready) : Reader Item := do
  let l ← peek start
  if l.isWord "yield" then return ⟨← yielding self l .closing, false⟩
  else if l.isOperator "*" then
    let star ← take l .mark
    let value ← self (.expression true .operand .closing)
    return ⟨Pieces.gather .listSplat (star ++ value), (value.core?).any Tree.isSimpleTarget⟩
  else return ⟨← self (.expression true start .closing), true⟩

/-- Further items behind the first, each behind a comma; the last comma can stand alone. -/
def furtherItems (item : Reader Pieces) (close : String) : Reader Pieces :=
  repeated do
    let l ← peek .closing
    if l.isOperator "," then
      let comma ← take l .mark
      if (← peek .operandOrClosing).isOperator close then return (comma, false)
      else return (comma ++ (← item), true)
    else return ([], false)

/-- The word starts a clause of a comprehension. -/
def startsClause (l : Lexeme) : Bool :=
  l.isWord "for" || l.isWord "async"

/-- A `for` clause: its targets, and the expressions that it runs over. -/
def forClause (self : Grammar) (l : Lexeme) : Reader Pieces := do
  let opening ←
    if l.isWord "async" then do
      let asyncWord ← take l .mark
      pure (asyncWord ++ (← keyword .plain "for"))
    else take l .mark
  let targets ← loopTargets self
  let inside ← keyword .plain "in"
  let first ← self (.expression false .operand .closing)
  let others ← repeated do
    let l ← peek .closing
    if l.isOperator "," then
      let comma ← take l .mark
      let next ← peek .operandOrClosing
      if startsOperand next ∧ ¬ startsClause next ∧ ¬ next.isWord "if" then
        return (comma ++ (← self (.expression false .operandOrClosing .closing)), true)
      else return (comma, false)
    else return ([], false)
  return Pieces.gather .phrase (opening ++ targets ++ inside ++ first ++ others)

/-- The clauses of a comprehension. -/
def clauses (self : Grammar) : Reader Pieces :=
  repeated do
    let l ← peek .closing
    if startsClause l then return (← forClause self l, true)
    else if l.isWord "if" then
      let word ← take l .mark
      return (Pieces.gather .phrase (word ++ (← self (.expression false .operand .closing))), true)
    else return ([], false)

/-- The pieces between a bracket and its counterpart, with the counterpart. -/
def closed (k : Kind) (opening inside : Pieces) (close : String) : Reader Pieces := do
  return Pieces.gather k (opening ++ inside ++ (← closeBracket .closing close))

/-- A parenthesis: a tuple, a generator, or an expression in parentheses. -/
def parenthesis (self : Grammar) (l : Lexeme) : Reader Pieces := do
  let opening ← openBracket l ')'
  if (← peek .operandOrClosing).isOperator ")" then closed .tuple opening [] ")"
  else
    let first ← element self .operandOrClosing
    let next ← peek .closing
    if startsClause next ∧ first.isExpression then
      closed .phrase opening (first.pieces ++ (← clauses self)) ")"
    else if next.isOperator "," then
      let others ← furtherItems (Item.pieces <$> element self .operandOrClosing) ")"
      closed .tuple opening (first.pieces ++ others) ")"
    else closed .parenthesized opening first.pieces ")"

/-- A square bracket that is no subscript: a list or a list comprehension. -/
def listDisplay (self : Grammar) (l : Lexeme) : Reader Pieces := do
  let opening ← openBracket l ']'
  if (← peek .operandOrClosing).isOperator "]" then closed .list opening [] "]"
  else
    let first ← element self .operandOrClosing
    if startsClause (← peek .closing) ∧ first.isExpression then
      closed .phrase opening (first.pieces ++ (← clauses self)) "]"
    else
      let others ← furtherItems (Item.pieces <$> element self .operandOrClosing) "]"
      closed .list opening (first.pieces ++ others) "]"

/-- A pair of a dictionary behind its key, or a dictionary to be taken in. -/
def pairValue (self : Grammar) (key : Pieces) : Reader Pieces := do
  let colon ← operator .plain ":"
  return Pieces.gather .phrase (key ++ colon ++ (← self (.expression true .operand .closing)))

/-- An item of a dictionary. -/
def dictionaryItem (self : Grammar) (start : Ready) : Reader Item := do
  let l ← peek start
  if l.isOperator "**" then
    let stars ← take l .mark
    let value ← self (.expression true .operand .closing)
    return ⟨Pieces.gather .phrase (stars ++ value), false⟩
  else return ⟨← pairValue self (← self (.expression true start .plain)), true⟩

/-- A brace: a dictionary, a set, or a comprehension of one. -/
def brace (self : Grammar) (l : Lexeme) : Reader Pieces := do
  let opening ← openBracket l '\x7d'
  let start ← peek .operandOrClosing
  let rest (first : Pieces) : Reader Pieces := do
    return first ++ (← furtherItems (Item.pieces <$> dictionaryItem self .operandOrClosing) "\x7d")
  if start.isOperator "\x7d" then closed .phrase opening [] "\x7d"
  else if start.isOperator "," then closed .phrase opening (← take start .mark) "\x7d"
  else if start.isOperator "**" then
    let first ← dictionaryItem self .operandOrClosing
    closed .phrase opening (← rest first.pieces) "\x7d"
  else
    let first ← element self .operandOrClosing
    let next ← peek .closing
    if next.isOperator ":" ∧ first.isExpression then
      let pair ← pairValue self first.pieces
      if startsClause (← peek .closing) then
        closed .phrase opening (pair ++ (← clauses self)) "\x7d"
      else closed .phrase opening (← rest pair) "\x7d"
    else if startsClause next ∧ first.isExpression then
      closed .phrase opening (first.pieces ++ (← clauses self)) "\x7d"
    else
      let others ← furtherItems (Item.pieces <$> element self .operandOrClosing) "\x7d"
      closed .phrase opening (first.pieces ++ others) "\x7d"

/-! ### Calls, subscripts and attributes -/

/-- One argument of a call: an expression, a starred one, or a named one. -/
def argument (self : Grammar) (start : Ready) : Reader Item := do
  let l ← peek start
  if l.isOperator "*" ∨ l.isOperator "**" then
    let stars ← take l .mark
    let value ← self (.expression true .operand .closing)
    return ⟨Pieces.gather .phrase (stars ++ value),
      l.isOperator "*" && (value.core?).any Tree.isSimpleTarget⟩
  else
    let value ← self (.expression true start .closing)
    let next ← peek .closing
    if next.isOperator "=" ∧ (value.core?).any (fun t => t.kind = .identifier) then
      let equals ← take next .mark
      let given ← self (.expression true .operand .closing)
      return ⟨Pieces.gather .phrase (value ++ equals ++ given), false⟩
    else return ⟨value, true⟩

/-- The arguments of a call, or the generator that it is called with. -/
def arguments (self : Grammar) (l : Lexeme) : Reader Pieces := do
  let opening ← openBracket l ')'
  let start ← peek .operandOrClosing
  if start.isOperator ")" then closed .phrase opening [] ")"
  else if start.isOperator "," then closed .phrase opening (← take start .mark) ")"
  else
    let first ← argument self .operandOrClosing
    if startsClause (← peek .closing) ∧ first.isExpression then
      closed .phrase opening (first.pieces ++ (← clauses self)) ")"
    else
      let others ← furtherItems (Item.pieces <$> argument self .operandOrClosing) ")"
      closed .phrase opening (first.pieces ++ others) ")"

/-- A bound of a slice behind a colon, if there is one. -/
def sliceBound (self : Grammar) : Reader Pieces := do
  if startsOperand (← peek .operandOrClosing) then
    self (.expression true .operandOrClosing .closing)
  else return []

/-- One item of a subscript: an expression or a slice. -/
def subscriptItem (self : Grammar) (start : Ready) : Reader Pieces := do
  let l ← peek start
  let lower ← if l.isOperator ":" then pure [] else self (.expression true start .closing)
  let colon ← peek .closing
  if colon.isOperator ":" then
    let mark ← take colon .mark
    let upper ← sliceBound self
    let second ← peek .closing
    let step ←
      if second.isOperator ":" then do
        let mark ← take second .mark
        pure (mark ++ (← sliceBound self))
      else pure []
    return Pieces.gather .phrase (lower ++ mark ++ upper ++ step)
  else return lower

/-- The items of a subscript. -/
def subscript (self : Grammar) (l : Lexeme) : Reader Pieces := do
  let opening ← openBracket l ']'
  let first ← subscriptItem self .operand
  let others ← furtherItems (subscriptItem self .operandOrClosing) "]"
  return opening ++ first ++ others ++ (← closeBracket .closing "]")

/-- One call, subscript or attribute behind an operand, if there is one. -/
def trailer? (self : Grammar) (follow : Ready) (base : Pieces) : Reader (Option Pieces) := do
  let l ← peek follow
  if l.isOperator "." then
    let dot ← take l .mark
    return some (Pieces.gather .attribute (base ++ dot ++ (← identifier .plain)))
  else if l.isOperator "(" then
    return some (Pieces.gather .phrase (base ++ (← arguments self l)))
  else if l.isOperator "[" then
    return some (Pieces.gather .subscript (base ++ (← subscript self l)))
  else return none

/-! ### Operands -/

/-- A name, a constant, a number, a string, an ellipsis, or something in brackets. -/
def atom (self : Grammar) (l : Lexeme) (follow : Ready) : Reader Pieces := do
  match l.token with
  | .word => take l (if ["True", "False", "None"].contains l.text then .literal else .identifier)
  | .number => take l .literal
  | .stringStart d => strings self l d follow
  | .operator =>
    if l.text = "(" then parenthesis self l
    else if l.text = "[" then listDisplay self l
    else if l.text = "\x7b" then brace self l
    else if l.text = "..." then take l .literal
    else unexpected l
  | _ => unexpected l

/-- A starred name, attribute or subscript. -/
def starred (self : Grammar) (l : Lexeme) (follow : Ready) : Reader Pieces := do
  let star ← take l .mark
  let next ← peek .operand
  let value ← self (.primary .operand follow)
  if (value.core?).any Tree.isSimpleTarget then return Pieces.gather .listSplat (star ++ value)
  else unexpected next

/-- An operand.  The word `await` is a name where no operand follows it. -/
def primary (self : Grammar) (start follow : Ready) : Reader Pieces := do
  let l ← peek start
  if l.isOperator "-" ∨ l.isOperator "+" ∨ l.isOperator "~" then
    let sign ← take l .mark
    return Pieces.gather .phrase (sign ++ (← self (.primary .operand follow)))
  else if l.isOperator "*" then starred self l follow
  else
    let next := lexeme follow.orOperand l.after
    if l.isWord "await" ∧ startsFreshOperand next ∧ ¬ startsClause next then
      let word ← take l .mark
      return Pieces.gather .phrase (word ++ (← self (.primary follow.orOperand follow)))
    else extended (trailer? self follow) (← atom self l follow)

/-! ### Chains and tails -/

/-- The operators between two operands. -/
def joinsOperands (l : Lexeme) : Bool :=
  l.token = .operator &&
    ["+", "-", "*", "/", "//", "%", "@", "**", "<<", ">>", "&", "|", "^", "<", "<=", "==", "!=", ">=",
      ">", "<>"].contains l.text

/-- An operator or a comparison, if one follows. -/
def joint? (follow : Ready) : Reader (Option Pieces) := do
  let l ← peek follow
  if joinsOperands l ∨ l.isWord "in" then return some (← take l .mark)
  else if l.isWord "not" then
    let word ← take l .mark
    return some (word ++ (← keyword .plain "in"))
  else if l.isWord "is" then
    let word ← take l .mark
    let next ← peek .operand
    if next.isWord "not" then return some (word ++ (← take next .mark)) else return some word
  else return none

/-- Operands with operators and comparisons between them. -/
def chain (self : Grammar) (start follow : Ready) : Reader Pieces := do
  let first ← self (.primary start follow)
  let others ← repeated do
    match ← joint? follow with
    | some mark => return (mark ++ (← self (.primary .operand follow)), true)
    | none => return ([], false)
  return if others = [] then first else Pieces.gather .phrase (first ++ others)

/-- What goes on with an expression behind a chain, if anything does. -/
def tail (self : Grammar) (conditional : Bool) (follow : Ready) : Reader Pieces := do
  let l ← peek follow
  if l.isWord "and" ∨ l.isWord "or" ∨ l.isWord "as" then
    let word ← take l .mark
    return word ++ (← self (.expression conditional .operand follow))
  else if conditional ∧ l.isWord "if" then
    let ifWord ← take l .mark
    let condition ← self (.expression true .operand .plain)
    let elseWord ← keyword .plain "else"
    return ifWord ++ condition ++ elseWord ++ (← self (.expression true .operand follow))
  else return []

/-- A `lambda`: its parameters and its value. -/
def lambda (self : Grammar) (l : Lexeme) (conditional : Bool) (follow : Ready) : Reader Pieces := do
  let word ← take l .mark
  let names ← parameters self false ":" .plain
  let colon ← operator .plain ":"
  let value ← self (.expression conditional .operand follow)
  return Pieces.gather .phrase (word ++ names ++ colon ++ value)

/-- An expression. -/
def expression (self : Grammar) (conditional : Bool) (start follow : Ready) : Reader Pieces := do
  let l ← peek start
  if l.isWord "not" then
    let word ← take l .mark
    return Pieces.gather .phrase (word ++ (← self (.expression conditional .operand follow)))
  else if l.isWord "lambda" then lambda self l conditional follow
  else
    let head ← chain self start follow
    let next ← peek follow
    if next.isOperator ":=" ∧ (head.core?).any (fun t => t.kind = .identifier) then
      let mark ← take next .mark
      let value ← self (.expression conditional .operand follow)
      return Pieces.gather .phrase (head ++ mark ++ value)
    else
      let more ← tail self conditional follow
      return if more = [] then head else Pieces.gather .phrase (head ++ more)

end QualityGate.Python
