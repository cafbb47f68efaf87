/-
A disk: files, directories and symbolic links.

A file has bytes, or a cause for which its bytes cannot be had: no permission, or a fault of the device.
What does not read it cannot tell the two apart.

A location is the list of names from an entry up to the root, so the location of a directory is the
tail of the locations directly below it.  The root is always a directory.  Every other location has at
most one entry, its names are names that an entry can have, and what is above it is a directory; all
three are kept by every operation, so every disk is a tree.
-/
import QualityGate.Failure
import QualityGate.Text.Utf8

namespace QualityGate

/-- Where an entry is: its name, the name of its directory, and so on up to the root. -/
abbrev Location := List (List Char)

/-- What is at a location. -/
inductive Entry where
  | file (bytes : List UInt8)
  | unreadable (cause : IoError)
  | directory
  | link (target : Path)
  deriving DecidableEq

/-- The entry is a file, whether or not it can be read. -/
def Entry.isFile : Entry → Bool
  | .file _ | .unreadable _ => true
  | .directory | .link _ => false

/-- The greatest number of bytes in a name. -/
def nameLimit : Nat := 255

/-- A name that an entry can have. -/
def isEntryName (name : List Char) : Bool :=
  !Path.isVoid name && name ≠ ['.', '.'] && !name.contains '/' &&
    (Text.encode name).length ≤ nameLimit

/-- Entries by location, and the directory that relative paths start from. -/
structure Disk where
  entries : List (Location × Entry)
  current : Location
  nodup : (entries.map Prod.fst).Nodup
  named : ∀ e ∈ entries, e.1 ≠ [] ∧ e.1.all isEntryName = true
  rooted : ∀ e ∈ entries, e.1.tail = [] ∨ (e.1.tail, Entry.directory) ∈ entries

namespace Disk

/-- The disk without entries. -/
def empty : Disk where
  entries := []
  current := []
  nodup := List.nodup_nil
  named := by simp
  rooted := by simp

/-- What is at a location. -/
def lookup? (d : Disk) (loc : Location) : Option Entry :=
  if loc = [] then some .directory
  else (d.entries.find? fun e => e.1 = loc).map Prod.snd

/-- There is a directory at the location. -/
def isDirectoryAt (d : Disk) (loc : Location) : Bool :=
  d.lookup? loc = some .directory

/-- There is a file at the location. -/
def isFileAt (d : Disk) (loc : Location) : Bool :=
  (d.lookup? loc).any Entry.isFile

/-- The name, if the location is directly below the directory. -/
def nameBelow? (dir : Location) : Location → Option (List Char)
  | name :: above => if above = dir then some name else none
  | [] => none

/-- The names in a directory, in the order in which the disk lists them. -/
def names (d : Disk) (dir : Location) : List (List Char) :=
  d.entries.filterMap fun e => nameBelow? dir e.1

/-- The locations of all directories. -/
def directories (d : Disk) : List Location :=
  [] :: (d.entries.filter fun e => e.2 = .directory).map Prod.fst

/-- The greatest number of names in a location. -/
def height (d : Disk) : Nat :=
  d.entries.foldr (fun e h => max e.1.length h) 0

theorem mem_of_lookup? {d : Disk} {loc : Location} {entry : Entry} (hne : loc ≠ [])
    (h : d.lookup? loc = some entry) : (loc, entry) ∈ d.entries := by
  rw [lookup?, if_neg hne] at h
  obtain ⟨e, he, rfl⟩ := Option.map_eq_some_iff.1 h
  have hmem := List.mem_of_find?_eq_some he
  have hloc := List.find?_some he
  rw [decide_eq_true_eq] at hloc
  rw [← hloc]
  exact hmem

theorem rooted_of_isDirectoryAt {d : Disk} {loc : Location} (h : d.isDirectoryAt loc = true) :
    loc = [] ∨ (loc, Entry.directory) ∈ d.entries := by
  rw [isDirectoryAt, decide_eq_true_eq] at h
  by_cases hne : loc = []
  · exact .inl hne
  · exact .inr (mem_of_lookup? hne h)

/-! ### Changes -/

/-- The disk without the entry at a location and everything below it. -/
def remove (d : Disk) (loc : Location) : Disk where
  entries := d.entries.filter fun e => !loc.isSuffixOf e.1
  current := d.current
  nodup := d.nodup.sublist (List.filter_sublist.map Prod.fst)
  named e he := d.named e (List.mem_filter.1 he).1
  rooted e he := by
    obtain ⟨he, hloc⟩ := List.mem_filter.1 he
    refine (d.rooted e he).imp_right fun hdir => List.mem_filter.2 ⟨hdir, ?_⟩
    rw [Bool.not_eq_true', ← Bool.not_eq_true, List.isSuffixOf_iff_suffix] at hloc ⊢
    exact fun hsuffix => hloc (hsuffix.trans (List.tail_suffix e.1))

theorem mem_entries_remove {d : Disk} {loc : Location} {e : Location × Entry} :
    e ∈ (d.remove loc).entries ↔ e ∈ d.entries ∧ ¬ loc <:+ e.1 := by
  simp [remove, List.mem_filter, ← Bool.not_eq_true]

/-- An entry can be put at the location: it has names, and what is above it is a directory. -/
def canHold (d : Disk) (loc : Location) : Bool :=
  loc ≠ [] && loc.all isEntryName && d.isDirectoryAt loc.tail

theorem canHold_iff {d : Disk} {loc : Location} :
    d.canHold loc = true ↔
      (loc ≠ [] ∧ loc.all isEntryName = true) ∧ d.isDirectoryAt loc.tail = true := by
  simp [canHold]

/-- What is above a location stays where it is when the location is cleared. -/
theorem above_mem_remove {d : Disk} {loc : Location} (h : d.canHold loc = true) :
    loc.tail = [] ∨ (loc.tail, Entry.directory) ∈ (d.remove loc).entries := by
  obtain ⟨⟨hne, -⟩, hdir⟩ := canHold_iff.1 h
  refine (rooted_of_isDirectoryAt hdir).imp_right fun hmem => mem_entries_remove.2 ⟨hmem, ?_⟩
  intro hsuffix
  have hlength := hsuffix.length_le
  have hpos := List.length_pos_iff.2 hne
  rw [List.length_tail] at hlength
  omega

/-- The disk with an entry at a location, instead of the one that was there; a directory that is there
stays as it is. -/
def put (d : Disk) (loc : Location) (entry : Entry) : Disk :=
  if h : d.canHold loc = true then
    if entry = .directory ∧ d.isDirectoryAt loc then d
    else
      { entries := (d.remove loc).entries ++ [(loc, entry)]
        current := d.current
        nodup := by
          rw [List.map_append, List.nodup_append]
          refine ⟨(d.remove loc).nodup, by simp, ?_⟩
          intro a ha b hb hab
          obtain ⟨e, he, rfl⟩ := List.mem_map.1 ha
          rw [List.map_singleton, List.mem_singleton] at hb
          exact (mem_entries_remove.1 he).2 (hab.trans hb ▸ List.suffix_rfl)
        named := by
          intro e he
          rcases List.mem_append.1 he with he | he
          · exact (d.remove loc).named e he
          · rw [List.mem_singleton.1 he]
            exact (canHold_iff.1 h).1
        rooted := by
          intro e he
          rcases List.mem_append.1 he with he | he
          · exact ((d.remove loc).rooted e he).imp_right (List.mem_append_left _)
          · rw [List.mem_singleton.1 he]
            exact (above_mem_remove h).imp_right (List.mem_append_left _) }
  else d

/-- The disk with a directory at a location where there was nothing, and at all locations above. -/
def putDirectories (d : Disk) : Location → Disk
  | [] => d
  | name :: above =>
    let d := d.putDirectories above
    match d.lookup? (name :: above) with
    | some _ => d
    | none => d.put (name :: above) .directory

/-- The disk with an entry at a location, and directories above it. -/
def putDeep (d : Disk) (loc : Location) (entry : Entry) : Disk :=
  (d.putDirectories loc.tail).put loc entry

/-- The disk where relative paths start from another directory. -/
def startingFrom (d : Disk) (loc : Location) : Disk :=
  { d with current := loc }

/-! ### Basic lemmas -/

theorem mem_directories {d : Disk} {loc : Location} (h : d.isDirectoryAt loc = true) :
    loc ∈ d.directories := by
  rw [isDirectoryAt, decide_eq_true_eq] at h
  by_cases hne : loc = []
  · rw [hne]
    exact List.mem_cons_self
  · refine List.mem_cons_of_mem _ (List.mem_map.2 ⟨(loc, .directory), ?_, rfl⟩)
    exact List.mem_filter.2 ⟨mem_of_lookup? hne h, by simp⟩

theorem length_le_foldr {entries : List (Location × Entry)} {e : Location × Entry} (h : e ∈ entries) :
    e.1.length ≤ entries.foldr (fun e h => max e.1.length h) 0 := by
  induction entries with
  | nil => cases h
  | cons f rest ih =>
    rw [List.foldr_cons]
    rcases List.mem_cons.1 h with rfl | h
    · exact Nat.le_max_left _ _
    · exact Nat.le_trans (ih h) (Nat.le_max_right _ _)

theorem length_le_height {d : Disk} {loc : Location} {entry : Entry}
    (h : d.lookup? loc = some entry) : loc.length ≤ d.height := by
  by_cases hne : loc = []
  · rw [hne]
    exact Nat.zero_le _
  · exact length_le_foldr (mem_of_lookup? hne h)

end Disk

end QualityGate
