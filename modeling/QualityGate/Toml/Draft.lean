/-
Tables while a document is read.

A table that only keys or headers below it have named is implicit, and one that a key with points has
made is dotted.  A key may go through such tables only if they are implicit, and a value is put only
into a table of the sort that its key makes; so no table is defined twice, and none is extended from
another place than the one that defined it.
-/
import QualityGate.Toml.Value

namespace QualityGate.Toml

/-- An entry of a table while a document is read. -/
inductive Draft where
  | value (v : Toml)
  | table (implicit dotted : Bool) (entries : List (String × Draft))
  | tables (items : List Draft)
  deriving Inhabited

namespace Draft

/-- A table without entries. -/
def empty : Draft :=
  .table false false []

/-- The entry of a key. -/
def lookup? (key : String) : List (String × Draft) → Option Draft
  | [] => none
  | (k, d) :: rest => if k = key then some d else lookup? key rest

/-- The entries with another entry for a key. -/
def replace (key : String) (d : Draft) : List (String × Draft) → List (String × Draft)
  | [] => [(key, d)]
  | (k, e) :: rest => if k = key then (k, d) :: rest else (k, e) :: replace key d rest

/-- Changes the table that a path leads to.  Tables on the way are made where they are missing; of an
array of tables the last one is meant.  A path of points does not go through a table that has been
defined. -/
def changeAt? (dotted : Bool) (change : Draft → Option Draft) : List String → Draft → Option Draft
  | [], d => change d
  | key :: path, .table i t entries =>
    match lookup? key entries with
    | none =>
      (changeAt? dotted change path (.table true dotted [])).map fun d =>
        .table i t (replace key d entries)
    | some (.value _) => none
    | some (.table i' t' below) =>
      if dotted ∧ ¬ i' then none
      else
        (changeAt? dotted change path (.table i' t' below)).map fun d =>
          .table i t (replace key d entries)
    | some (.tables items) =>
      match items.getLast? with
      | none => none
      | some last =>
        (changeAt? dotted change path last).map fun d =>
          .table i t (replace key (.tables (items.dropLast ++ [d])) entries)
  | _ :: _, _ => none

/-- Puts a new entry into a table. -/
def insert? (key : String) (d : Draft) : Draft → Option Draft
  | .table i t entries =>
    match lookup? key entries with
    | none => some (.table i t (entries ++ [(key, d)]))
    | some _ => none
  | _ => none

/-- The table that a path leads to, all tables on the way being there. -/
def find? : List String → Draft → Option Draft
  | [], d => some d
  | key :: path, .table _ _ entries =>
    match lookup? key entries with
    | some (.tables items) => items.getLast?.bind (find? path)
    | some d => find? path d
    | none => none
  | _ :: _, _ => none

/-- Takes an entry out of a table. -/
def remove? (key : String) : Draft → Option Draft
  | .table i t entries => some (.table i t (entries.filter fun e => e.1 ≠ key))
  | _ => none

/-- The table was made by a key with points. -/
def isDotted : Draft → Bool
  | .table _ dotted _ => dotted
  | _ => false

/-- Gives a key with points its value. -/
def define? (key : List String) (v : Toml) (d : Draft) : Option Draft :=
  match key.getLast? with
  | none => none
  | some name =>
    let path := key.dropLast
    let put (t : Draft) : Option Draft :=
      if t.isDotted = path.isEmpty then none else insert? name (.value v) t
    changeAt? (!path.isEmpty) put path d

mutual

/-- The finished value. -/
def toToml : Draft → Toml
  | .value v => v
  | .table _ _ entries => .table ((entriesToToml entries).mergeSort fun a b => a.1 < b.1 || a.1 = b.1)
  | .tables items => .array (itemsToToml items)

/-- The finished entries of a table. -/
def entriesToToml : List (String × Draft) → List (String × Toml)
  | [] => []
  | (key, d) :: rest => (key, toToml d) :: entriesToToml rest

/-- The finished elements of an array of tables. -/
def itemsToToml : List Draft → List Toml
  | [] => []
  | d :: rest => toToml d :: itemsToToml rest

end

end Draft

end QualityGate.Toml
