/-
From a path to what it names.

The pieces of a path are followed one by one, each from a directory.  A link leads to its target,
which starts from the root or from the directory that holds the link; at most forty links are followed
on one way.  A file that is to be written need not be there yet; then its name has to be the last
piece, without a slash behind it.
-/
import QualityGate.Disk.Basic

namespace QualityGate

/-- What a path is followed for: something that is there, or a file that may be made. -/
inductive Purpose where
  | find
  | make
  deriving DecidableEq

namespace Path

/-- The pieces between the slashes. -/
def pieces (p : Path) : List (List Char) :=
  Text.splitOn '/' p.chars

/-- The location from which a path is followed. -/
def startFrom (p : Path) (here : Location) : Location :=
  if p.isAbsolute then [] else here

end Path

namespace Disk

/-- The greatest number of links on one way. -/
def linkLimit : Nat := 40

/-- Where a missing entry would be made. -/
def missing (purpose : Purpose) (rest : List (List Char)) (loc : Location) : Except IoError Location :=
  if purpose = .make ∧ rest = [] then .ok loc else .error .notFound

/-- Follows pieces from a location; `jump` follows the pieces that a link leads to. -/
def along (d : Disk) (purpose : Purpose)
    (jump : List (List Char) → Location → Except IoError Location) :
    List (List Char) → Location → Except IoError Location
  | [], loc => .ok loc
  | piece :: rest, loc =>
    if !d.isDirectoryAt loc then .error .notDirectory
    else if Path.isVoid piece then along d purpose jump rest loc
    else if piece = ['.', '.'] then along d purpose jump rest loc.tail
    else if nameLimit < (Text.encode piece).length then .error .nameTooLong
    else if purpose = .make ∧ rest ≠ [] ∧ rest.all List.isEmpty then .error .isDirectory
    else
      match d.lookup? (piece :: loc) with
      | none => missing purpose rest (piece :: loc)
      | some (.link target) => jump (target.pieces ++ rest) (target.startFrom loc)
      | some _ => along d purpose jump rest (piece :: loc)

/-- Follows pieces from a location over at most so many links. -/
def follow (d : Disk) (purpose : Purpose) : Nat → List (List Char) → Location → Except IoError Location
  | 0 => d.along purpose fun _ _ => .error .tooManyLinks
  | links + 1 => d.along purpose (d.follow purpose links)

/-- The location that a path leads to; what is there is no link. -/
def resolve (d : Disk) (purpose : Purpose) (p : Path) : Except IoError Location :=
  if p.text = "" then .error .notFound
  else d.follow purpose linkLimit p.pieces (p.startFrom d.current)

/-! ### What a path names -/

/-- The entry that a path leads to. -/
def look (d : Disk) (p : Path) : Except IoError Entry := do
  let loc ← d.resolve .find p
  match d.lookup? loc with
  | some entry => return entry
  | none => throw .notFound

/-- The path leads to a file. -/
def isFile (d : Disk) (p : Path) : Bool :=
  match d.look p with
  | .ok entry => entry.isFile
  | .error _ => false

/-- The path leads to a directory. -/
def isDirectory (d : Disk) (p : Path) : Bool :=
  match d.look p with
  | .ok .directory => true
  | _ => false

/-- The path leads to something. -/
def holds (d : Disk) (p : Path) : Bool :=
  match d.look p with
  | .ok _ => true
  | .error _ => false

/-- The bytes of a file, if it can be read. -/
def read (d : Disk) (p : Path) : Except IoError (List UInt8) := do
  match ← d.look p with
  | .file bytes => return bytes
  | .unreadable cause => throw cause
  | _ => throw .isDirectory

/-- The text of a file. -/
def readText (d : Disk) (p : Path) : Except IoError (List Char) := do
  match Text.decode? (← d.read p) with
  | some text => return text
  | none => throw .invalidUtf8

/-- The absolute path of a location. -/
def pathOf (loc : Location) : Path :=
  Path.ofPieces .root loc.reverse

/-- The absolute path, without links, of what a path leads to. -/
def canonical (d : Disk) (p : Path) : Except IoError Path :=
  (d.resolve .find p).map pathOf

/-- The disk with a file of the given bytes where the path leads. -/
def write (d : Disk) (p : Path) (bytes : List UInt8) : Except IoError Disk := do
  let loc ← d.resolve .make p
  if d.isDirectoryAt loc then throw .isDirectory
  else return d.put loc (.file bytes)

end Disk

end QualityGate
