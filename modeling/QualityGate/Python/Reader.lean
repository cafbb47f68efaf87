/-
The reader of Python source: its state, its faults, and the steps that the grammar is written in.

A reader takes a scan and gives what it read with the scan behind it, or a fault.  What it read is a
list of pieces: a node, and before it the extra leaves met on the way.  `gather` makes a node of
pieces and leaves the extra leaves at the front outside, so an extra leaf always stands in the
innermost node that has something on both sides of it.

The grammar is recursive.  Its rules are named by `Rule`; each module of the grammar gives the rules
as functions of a `Grammar`, which reads the rules that occur inside them, and `Source.lean` ties the
knot with a bound on the depth.
-/
import QualityGate.Python.Lexer

namespace QualityGate.Python

/-- Why a text cannot be read: the kind of node that stands for it, and its row. -/
structure Fault where
  kind : Kind
  row : Nat
  deriving DecidableEq

/-- A step of reading. -/
abbrev Reader := StateT Scan (Except Fault)

/-- Nodes in the order of the text. -/
abbrev Pieces := List Tree

/-- The recursive rules of the grammar.  A rule is told what the reader is ready for at its start and
behind its end; an expression also whether it can be conditional, a type whether a constraint can
follow it, and a statement whether it stands in a block. -/
inductive Rule where
  | expression (conditional : Bool) (start follow : Ready)
  | primary (start follow : Ready)
  | typeExpression (constraint : Bool) (follow : Ready)
  | casePattern (start follow : Ready)
  | assigned (start follow : Ready)
  | formatPart
  | statement (inBlock : Bool)

/-- Reads the rules of the grammar. -/
abbrev Grammar := Rule → Reader Pieces

namespace Pieces

/-- A comment or a joined line. -/
def isExtra (t : Tree) : Bool :=
  t.kind = .comment || t.kind = .lineJoin

/-- The node that the pieces stand for, behind their extra leaves. -/
def core? (pieces : Pieces) : Option Tree :=
  pieces.find? fun t => !isExtra t

/-- The pieces as one node, behind the extra leaves at the front. -/
def gather (k : Kind) (pieces : Pieces) : Pieces :=
  let inside := pieces.dropWhile isExtra
  match inside with
  | [] => pieces
  | t :: _ =>
    let last := (inside.getLast?.map Tree.last).getD t.last
    pieces.takeWhile isExtra ++ [.node k .other t.first last "" inside]

/-- The pieces with their node in the given role. -/
def inRole (r : Role) (pieces : Pieces) : Pieces :=
  pieces.map fun t => if isExtra t then t else t.inRole r

end Pieces

/-! ### Faults -/

/-- The brackets that stay open when the text is read on: strings of one line and comments are passed
over, and a closing bracket closes the innermost open one if it matches. -/
def openAt : Option Char → List Char → List (Char × Option Nat) → List (Char × Option Nat)
  | _, [], stack => stack
  | some stop, c :: cs, stack => openAt (if c = stop ∨ c = '\n' then none else some stop) cs stack
  | none, c :: cs, stack =>
    if c = '#' then openAt (some '\n') cs stack
    else if c = '\'' ∨ c = '\"' then openAt (some c) cs stack
    else if c = '(' then openAt none cs ((')', none) :: stack)
    else if c = '[' then openAt none cs ((']', none) :: stack)
    else if c = '\x7b' then openAt none cs (('\x7d', none) :: stack)
    else
      match stack with
      | (close, row) :: below => openAt none cs (if c = close then below else (close, row) :: below)
      | [] => []

/-- The row of the outermost bracket that is open and that nothing closes. -/
def unclosedRow? (s : Scan) : Option Nat :=
  let stack := openAt none s.rest (s.openers.map fun o => (o.1, some o.2))
  stack.getLast?.bind fun o => o.2

/-- The row that a token which cannot stand where it does is blamed on: that of an unclosed bracket
around it, else its own if it is no token of the language or goes on with the line of the token before
it; a text or block that ends too early is blamed on the clause that it cuts off, and anything else on
the row before. -/
def faultRow (s : Scan) (l : Lexeme) : Nat :=
  match unclosedRow? s with
  | some row => row
  | none =>
    match l.token with
    | .unknown => l.first.row
    | .endOfText | .dedent | .newline | .indent => s.clauseRow
    | _ => if l.first.row = s.lastRow then l.first.row else s.lastRow

/-- Gives up at a row. -/
def failAt {α : Type} (k : Kind) (row : Nat) : Reader α :=
  throw ⟨k, row⟩

/-- Gives up at a token that cannot stand where it does. -/
def unexpected {α : Type} (l : Lexeme) : Reader α := do
  failAt .error (faultRow (← get) l)

/-! ### Steps -/

/-- The next token. -/
def peek (ready : Ready) : Reader Lexeme := do
  return lexeme ready (← get)

/-- Goes on behind a token. -/
def advance (l : Lexeme) : Reader Unit :=
  set { l.after with lastRow := l.last.row }

/-- Takes a token as a leaf. -/
def take (l : Lexeme) (k : Kind) : Reader Pieces := do
  advance l
  return l.leaf k

/-- Takes the next token, which has to be the operator. -/
def operator (ready : Ready) (op : String) : Reader Pieces := do
  let l ← peek ready
  if l.isOperator op then take l .mark else unexpected l

/-- Takes the next token, which has to be the word, as a mark. -/
def keyword (ready : Ready) (w : String) : Reader Pieces := do
  let l ← peek ready
  if l.isWord w then take l .mark else unexpected l

/-- Takes the next token, which has to be a word, as a name. -/
def identifier (ready : Ready) : Reader Pieces := do
  let l ← peek ready
  if l.token = .word then take l .identifier else unexpected l

/-- Takes an opening bracket; it counts as open until its closing one is taken. -/
def openBracket (l : Lexeme) (close : Char) : Reader Pieces := do
  let pieces ← take l .mark
  modify fun s => { s with openers := (close, l.first.row) :: s.openers }
  return pieces

/-- Takes a closing bracket. -/
def closeBracket (ready : Ready) (close : String) : Reader Pieces := do
  let l ← peek ready
  if l.isOperator close then
    let pieces ← take l .mark
    modify fun s => { s with openers := s.openers.tail }
    return pieces
  else unexpected l

/-- Repeats a step as long as it says that more follows, at most `bound` times. -/
def repeatWithin (step : Reader (Pieces × Bool)) : Nat → List Pieces → Reader Pieces
  | 0, _, s => throw ⟨.error, s.lastRow⟩
  | bound + 1, read, s =>
    match step s with
    | .error fault => .error fault
    | .ok ((pieces, true), s) => repeatWithin step bound (pieces :: read) s
    | .ok ((pieces, false), s) => .ok ((pieces :: read).reverse.flatten, s)

/-- Repeats a step as long as it says that more follows. -/
def repeated (step : Reader (Pieces × Bool)) : Reader Pieces := fun s =>
  repeatWithin step (s.size + 2) [] s

/-- Repeats a step that carries what was read so far, at most `bound` times. -/
def extendedWithin (step : Pieces → Reader (Option Pieces)) : Nat → Pieces → Reader Pieces
  | 0, pieces, s => .ok (pieces, s)
  | bound + 1, pieces, s =>
    match step pieces s with
    | .error fault => .error fault
    | .ok (some more, s) => extendedWithin step bound more s
    | .ok (none, s) => .ok (pieces, s)

/-- Repeats a step that carries what was read so far, until it gives nothing. -/
def extended (step : Pieces → Reader (Option Pieces)) (pieces : Pieces) : Reader Pieces := fun s =>
  extendedWithin step (s.size + 1) pieces s

/-- What the step reads, or nothing, in the place where it started, if it fails. -/
def attempt (step : Reader Pieces) : Reader (Option Pieces) := fun s =>
  match step s with
  | .ok (pieces, s) => .ok (some pieces, s)
  | .error _ => .ok (none, s)

/-! ### What a token can start -/

/-- Words that go on with an expression, and so are no operands behind one. -/
def continuesExpression (w : String) : Bool :=
  ["and", "or", "in", "is", "not", "if", "as", "else"].contains w

/-- The token can start an operand. -/
def startsOperand (l : Lexeme) : Bool :=
  match l.token with
  | .word | .number | .stringStart _ => true
  | .operator => ["(", "[", "\x7b", "-", "+", "~", "*", "..."].contains l.text
  | _ => false

/-- The token can start an operand and does not go on with an expression. -/
def startsFreshOperand (l : Lexeme) : Bool :=
  startsOperand l && !(l.token = .word && continuesExpression l.text)

end QualityGate.Python
