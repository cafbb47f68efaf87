/-
Paths.

A path is a text; its pieces stand between the slashes.  What it names is decided by its components:
the root, a leading `.`, every `..`, and the names.  Empty pieces and later `.` pieces name nothing.
Paths are ordered by components, so `a/b.py` comes before `a-b/c.py`.

`join` and `relativeTo?` are text operations that agree with this view: joining a base with what
remains of a path below the base gives a path with the same components.
-/
import QualityGate.Text.Cut

namespace QualityGate

/-- A path as it is written. -/
structure Path where
  text : String
  deriving DecidableEq, Inhabited

namespace Path

/-- What a step of a path names. -/
inductive Component where
  | root
  | current
  | parent
  | normal (name : List Char)
  deriving DecidableEq

/-- What a path starts from. -/
inductive Lead where
  | root
  | current
  | none
  deriving DecidableEq

/-- The path's characters. -/
def chars (p : Path) : List Char :=
  p.text.toList

/-- The path with the given characters. -/
def ofChars (s : List Char) : Path :=
  ⟨String.ofList s⟩

/-- A piece that names nothing when it does not come first. -/
def isVoid (piece : List Char) : Bool :=
  piece = [] || piece = ['.']

/-- The part of a path that is not its pieces after the start. -/
def lead (p : Path) : Lead :=
  match Text.splitOn '/' p.chars with
  | [] :: _ :: _ => .root
  | ['.'] :: _ => .current
  | _ => .none

/-- The pieces after the start. -/
def body (p : Path) : List (List Char) :=
  match p.lead with
  | .none => if p.chars = [] then [] else Text.splitOn '/' p.chars
  | _ => (Text.splitOn '/' p.chars).tail

/-- The path with the given start and pieces. -/
def ofPieces (lead : Lead) (pieces : List (List Char)) : Path :=
  let rest := Text.joinWith ['/'] pieces
  match lead with
  | .root => ofChars ('/' :: rest)
  | .current => ofChars (if pieces = [] then ['.'] else '.' :: '/' :: rest)
  | .none => ofChars rest

/-- The component that a piece after the start gives. -/
def componentOf? (piece : List Char) : Option Component :=
  if isVoid piece then none
  else if piece = ['.', '.'] then some .parent
  else some (.normal piece)

/-- The component that a start gives. -/
def Lead.component? : Lead → Option Component
  | .root => some .root
  | .current => some .current
  | .none => Option.none

/-- What the path names, step by step. -/
def components (p : Path) : List Component :=
  p.lead.component?.toList ++ p.body.filterMap componentOf?

/-- The path starts at the root. -/
def isAbsolute (p : Path) : Bool :=
  p.chars.head? = some '/'

/-- The two paths name the same steps. -/
def same (p q : Path) : Bool :=
  p.components = q.components

/-! ### Order -/

/-- Rank of a kind of component: root, `.`, `..`, names. -/
def Component.rank : Component → Nat
  | .root => 0
  | .current => 1
  | .parent => 2
  | .normal _ => 3

/-- The characters of a component that take part in the order. -/
def Component.name : Component → List Char
  | .normal name => name
  | _ => []

/-- Components are ordered by rank, names by code points. -/
def Component.compare (a b : Component) : Ordering :=
  (Ord.compare a.rank b.rank).then (Ord.compare a.name b.name)

/-- Component lists are ordered from the left; a part comes before the whole. -/
def compareComponents : List Component → List Component → Ordering
  | [], [] => .eq
  | [], _ :: _ => .lt
  | _ :: _, [] => .gt
  | a :: as, b :: bs => (a.compare b).then (compareComponents as bs)

/-- The order of paths. -/
def compare (p q : Path) : Ordering :=
  compareComponents p.components q.components

/-- Sorts paths; equal ones keep their order. -/
def sort (paths : List Path) : List Path :=
  paths.mergeSort fun p q => (p.compare q).isLE

/-! ### Operations -/

/-- The path `other`, taken from `base` unless it is absolute. -/
def join (base other : Path) : Path :=
  if other.isAbsolute then other
  else if base.chars = [] || base.chars.getLast? = some '/' then ofChars (base.chars ++ other.chars)
  else ofChars (base.chars ++ '/' :: other.chars)

/-- The path `base` with a plain name below it. -/
def child (base : Path) (name : String) : Path :=
  base.join ⟨name⟩

/-- The pieces without the void ones at the end. -/
def trimPieces (pieces : List (List Char)) : List (List Char) :=
  (pieces.reverse.dropWhile isVoid).reverse

/-- The pieces that remain when the pieces of the given components are taken away from the front. -/
def dropPieces : List Component → List (List Char) → Option (List (List Char))
  | [], pieces => some pieces
  | _ :: _, [] => none
  | c :: cs, piece :: pieces =>
    match componentOf? piece with
    | none => dropPieces (c :: cs) pieces
    | some d => if c = d then dropPieces cs pieces else none

/-- What remains of the path below `base`, if the components of `base` are the first of the path. -/
def relativeTo? (p base : Path) : Option Path :=
  match base.components with
  | [] => some (ofPieces p.lead (trimPieces p.body))
  | first :: others =>
    let rest :=
      match p.lead.component? with
      | some c => if c = first then dropPieces others p.body else none
      | none => dropPieces (first :: others) p.body
    rest.map fun pieces => ofPieces .none (trimPieces (pieces.dropWhile isVoid))

/-- The name that the path ends in, if it ends in one. -/
def fileName? (p : Path) : Option (List Char) :=
  match p.components.getLast? with
  | some (.normal name) => some name
  | _ => none

/-- A name cut at its last dot; a dot that comes first cuts nothing. -/
def cutName (name : List Char) : List Char × Option (List Char) :=
  match (name.reverse.dropWhile (· ≠ '.')) with
  | _ :: c :: before =>
    ((c :: before).reverse, some (name.reverse.takeWhile (· ≠ '.')).reverse)
  | _ => (name, none)

/-- The name that the path ends in, without its extension. -/
def stem? (p : Path) : Option (List Char) :=
  p.fileName?.map fun name => (cutName name).1

/-- The extension of the name that the path ends in. -/
def extension? (p : Path) : Option (List Char) :=
  p.fileName?.bind fun name => (cutName name).2

/-- The paths above the one whose pieces are held in reverse, nearest first. -/
def parentsOf (lead : Lead) : List (List Char) → List Path
  | [] => if lead = .current then [⟨""⟩] else []
  | piece :: rest =>
    if isVoid piece then parentsOf lead rest
    else ofPieces lead (rest.dropWhile isVoid).reverse :: parentsOf lead rest

/-- The path and all paths above it, nearest first. -/
def ancestors (p : Path) : List Path :=
  p :: parentsOf p.lead p.body.reverse

end Path

end QualityGate
