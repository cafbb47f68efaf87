/-
Documents.

The lines below a header belong to its table.  A header may name a table that only headers below it
have named so far, and an array of tables as often as it has elements.
-/
import QualityGate.Toml.Reader

namespace QualityGate.Toml

/-- A document while it is read: all tables but the current one, the path of the current table, and
whether it is an element of an array. -/
structure Assembly where
  root : Draft
  path : List String
  inArray : Bool
  current : Draft

namespace Assembly

/-- A document of which nothing has been read. -/
def start : Assembly :=
  ⟨.empty, [], false, .empty⟩

/-- Puts the current table in its place. -/
def settle? (a : Assembly) : Option Draft :=
  match a.path.getLast? with
  | none => some a.current
  | some name =>
    let put (t : Draft) : Option Draft :=
      if a.inArray then
        match t with
        | .table i d entries =>
          match Draft.lookup? name entries with
          | none => some (.table i d (entries ++ [(name, .tables [a.current])]))
          | some (.tables items) =>
            some (.table i d (Draft.replace name (.tables (items ++ [a.current])) entries))
          | some _ => none
        | _ => none
      else Draft.insert? name a.current t
    Draft.changeAt? false put a.path.dropLast a.root

/-- The table of a header: a new one, or one that only headers below it have named, which is taken
out of its place. -/
def openTable? (path : List String) (root : Draft) : Option Assembly :=
  match path.getLast? with
  | none => none
  | some name =>
    let found (t : Draft) : Option Draft :=
      match t with
      | .table _ _ entries => Draft.lookup? name entries
      | _ => none
    let at? (change : Draft → Option Draft) : Option Draft :=
      Draft.changeAt? false change path.dropLast root
    match at? fun t => some t with
    | none => none
    | some whole =>
      match (whole.find? path.dropLast).bind found with
      | none => some ⟨whole, path, false, .empty⟩
      | some (.table true false below) =>
        (at? (Draft.remove? name)).map fun rest => ⟨rest, path, false, .table false false below⟩
      | some _ => none

/-- The table of a header of an array element. -/
def openElement? (path : List String) (root : Draft) : Option Assembly :=
  match path.getLast? with
  | none => none
  | some name =>
    let check (t : Draft) : Option Draft :=
      match t with
      | .table i d entries =>
        match Draft.lookup? name entries with
        | none => some (.table i d (entries ++ [(name, .tables [])]))
        | some (.tables _) => some t
        | some _ => none
      | _ => none
    (Draft.changeAt? false check path.dropLast root).map fun whole => ⟨whole, path, true, .empty⟩

/-- The document behind one more line. -/
def add? (a : Assembly) : Line → Option Assembly
  | .empty => some a
  | .entry key value => (a.current.define? key value).map fun current => { a with current := current }
  | .tableHeader key => a.settle?.bind (openTable? key)
  | .arrayHeader key => a.settle?.bind (openElement? key)

end Assembly

/-- The table that a document denotes. -/
def parse? (s : List Char) : Option TomlTable := do
  let lines ← linesOf? s
  let a ← lines.foldlM Assembly.add? Assembly.start
  let root ← a.settle?
  match root.toToml with
  | .table entries => some entries
  | _ => none

end QualityGate.Toml
