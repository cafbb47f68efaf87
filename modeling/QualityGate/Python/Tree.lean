/-
Trees of Python source.

A node has a kind, the role it plays in the node above it, the place of its first and behind its last
character, and its children in the order of the text.  Only leaves carry text.  Comments and joined
lines stand as extra leaves where they occur.

`preorder` lists a node and everything below it from top to bottom and from left to right; `Cursor.lean`
walks the same nodes without recursion on the tree.
-/

namespace QualityGate.Python

/-- A place in a text: line feeds before it, and characters since the last of them. -/
structure Point where
  row : Nat
  column : Nat
  deriving DecidableEq, Inhabited

/-- What a node stands for; all that nothing depends on is a phrase, a word or a mark. -/
inductive Kind where
  | module
  | block
  | classDefinition
  | functionDefinition
  | expressionStatement
  | assignment
  | identifier
  | attribute
  | subscript
  | tuple
  | list
  | parenthesized
  | listSplat
  | patternList
  | tuplePattern
  | listPattern
  | listSplatPattern
  | string
  | stringStart
  | concatenatedString
  | printStatement
  | execStatement
  | phrase
  | literal
  | asyncKeyword
  | mark
  | comment
  | lineJoin
  | error
  | missing
  deriving DecidableEq, Inhabited

/-- The role that a node plays in the node above it. -/
inductive Role where
  | name
  | body
  | left
  | other
  deriving DecidableEq, Inhabited

/-- A node with all that is below it. -/
inductive Tree where
  | node (kind : Kind) (role : Role) (first last : Point) (text : String) (children : List Tree)
  deriving Inhabited

namespace Tree

/-- What the node stands for. -/
def kind : Tree → Kind
  | node k .. => k

/-- The role that the node plays in the node above it. -/
def role : Tree → Role
  | node _ r .. => r

/-- The place of the node's first character. -/
def first : Tree → Point
  | node _ _ p .. => p

/-- The place behind the node's last character. -/
def last : Tree → Point
  | node _ _ _ p .. => p

/-- The text of a leaf. -/
def text : Tree → String
  | node _ _ _ _ s _ => s

/-- The nodes directly below the node. -/
def children : Tree → List Tree
  | node _ _ _ _ _ cs => cs

/-- The node in another role. -/
def inRole (r : Role) : Tree → Tree
  | node k _ p q s cs => node k r p q s cs

/-- A node that is a name, a number, or built from other nodes, as opposed to a bare mark. -/
def isNamed (t : Tree) : Bool :=
  match t.kind with
  | .asyncKeyword | .mark | .missing => false
  | _ => true

/-- The nodes directly below that are no bare marks. -/
def namedChildren (t : Tree) : List Tree :=
  t.children.filter isNamed

/-- The node below that plays the role. -/
def child? (t : Tree) (r : Role) : Option Tree :=
  t.children.find? fun c => c.role = r

mutual

/-- Number of nodes. -/
def size : Tree → Nat
  | node _ _ _ _ _ cs => 1 + sizeAll cs

/-- Number of nodes of several trees. -/
def sizeAll : List Tree → Nat
  | [] => 0
  | t :: rest => size t + sizeAll rest

end

mutual

/-- The node and all nodes below it, a node before its children and the children from left to
right. -/
def preorder : Tree → List Tree
  | node k r p q s cs => node k r p q s cs :: preorderAll cs

/-- The nodes of several trees. -/
def preorderAll : List Tree → List Tree
  | [] => []
  | t :: rest => preorder t ++ preorderAll rest

end

/-! ### Size -/

theorem size_eq (t : Tree) : t.size = 1 + sizeAll t.children := by
  cases t
  rfl

theorem preorder_eq (t : Tree) : t.preorder = t :: preorderAll t.children := by
  cases t
  rfl

end Tree

end QualityGate.Python
