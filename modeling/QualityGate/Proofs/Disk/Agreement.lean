/-
Disks that differ in one file.

Following a path asks of an entry whether it is a file, a directory or a link, and never what is in a
file.  So two disks that differ in what one file holds or in whether it can be read, as they do when the
file is written over (`differsAt_put`), lead every path to the same location
(`DiffersAt.resolve_eq`).  The same files can then be reached on both, and a listing gives them in the
same order (`DiffersAt.files_list`).  Only on a path that leads to the file itself something else can be
read (`DiffersAt.read_eq`).
-/
import QualityGate.Proofs.Disk.Passage
import QualityGate.Proofs.Disk.Walk

namespace QualityGate.Disk

/-- Each of the disks has a file at the location, and everything else is the same on both. -/
structure DiffersAt (loc : Location) (d d' : Disk) : Prop where
  current : d'.current = d.current
  elsewhere : ∀ other, other ≠ loc → d'.lookup? other = d.lookup? other
  file : d.isFileAt loc = true
  file' : d'.isFileAt loc = true

variable {loc : Location} {d d' : Disk}

/-! ### Writing over a file -/

theorem lookup?_eq_some_iff {other : Location} {entry : Entry} (hne : other ≠ []) :
    d.lookup? other = some entry ↔ (other, entry) ∈ d.entries :=
  ⟨mem_of_lookup? hne, lookup?_of_mem⟩

/-- What is anywhere above an entry is a directory. -/
theorem isDirectoryAt_of_suffix {entry : Entry} {other : Location} (hne : other ≠ loc)
    (hmem : (other, entry) ∈ d.entries) (h : loc <:+ other) : d.isDirectoryAt loc = true := by
  cases other with
  | nil => exact absurd rfl (d.named _ hmem).1
  | cons name above =>
    have habove : loc <:+ above := (List.suffix_cons_iff.1 h).resolve_left (Ne.symm hne)
    exact isDirectoryAt_above (isDirectoryAt_tail_of_mem hmem) habove

section Put

variable {entry : Entry} (hhold : d.canHold loc = true) (hdir : d.isDirectoryAt loc = false)

include hhold hdir

theorem entries_put : (d.put loc entry).entries = (d.remove loc).entries ++ [(loc, entry)] := by
  have hput : ¬ (entry = .directory ∧ d.isDirectoryAt loc = true) := by simp [hdir]
  rw [put, dif_pos hhold, if_neg hput]

theorem current_put : (d.put loc entry).current = d.current := by
  have hput : ¬ (entry = .directory ∧ d.isDirectoryAt loc = true) := by simp [hdir]
  rw [put, dif_pos hhold, if_neg hput]

/-- What was put is found. -/
theorem lookup?_put_self : (d.put loc entry).lookup? loc = some entry := by
  rw [lookup?_eq_some_iff (canHold_iff.1 hhold).1.1, entries_put hhold hdir]
  exact List.mem_append_right _ (List.mem_singleton_self _)

/-- An entry elsewhere is kept, since nothing is below what is no directory. -/
theorem lookup?_put_of_ne {other : Location} (hother : other ≠ loc) :
    (d.put loc entry).lookup? other = d.lookup? other := by
  by_cases hroot : other = []
  · rw [hroot]
    rfl
  · apply Option.ext
    intro found
    -- the entries are those that were not cleared away, and the one put
    rw [lookup?_eq_some_iff hroot, lookup?_eq_some_iff hroot, entries_put hhold hdir,
      List.mem_append, mem_entries_remove, List.mem_singleton, Prod.mk.injEq]
    constructor
    · rintro (⟨hfound, -⟩ | ⟨heq, -⟩)
      · exact hfound
      · exact absurd heq hother
    · intro hfound
      refine .inl ⟨hfound, fun hsuffix => ?_⟩
      -- an entry below would make the location that of a directory
      rw [isDirectoryAt_of_suffix hother hfound hsuffix] at hdir
      cases hdir

end Put

/-- An entry can be put where a file is. -/
theorem canHold_of_isFileAt (h : d.isFileAt loc = true) : d.canHold loc = true := by
  have hne : loc ≠ [] := by
    rintro rfl
    cases h
  obtain ⟨entry, hentry, -⟩ := isFileAt_iff.1 h
  have hmem := mem_of_lookup? hne hentry
  exact canHold_iff.2 ⟨d.named _ hmem, isDirectoryAt_tail_of_mem hmem⟩

/-- A file that is replaced by another one is where the disks differ. -/
theorem differsAt_put (h : d.isFileAt loc = true) {entry : Entry} (hentry : entry.isFile = true) :
    DiffersAt loc d (d.put loc entry) := by
  have hhold := canHold_of_isFileAt h
  have hdir := isDirectoryAt_of_isFileAt h
  exact ⟨current_put hhold hdir, fun _ => lookup?_put_of_ne hhold hdir, h,
    isFileAt_iff.2 ⟨entry, lookup?_put_self hhold hdir, hentry⟩⟩

namespace DiffersAt

theorem symm (h : DiffersAt loc d d') : DiffersAt loc d' d where
  current := h.current.symm
  elsewhere other hne := (h.elsewhere other hne).symm
  file := h.file'
  file' := h.file

/-- An entry that is no file is the same on both disks. -/
theorem lookup?_eq_some (h : DiffersAt loc d d') {other : Location} {entry : Entry}
    (hentry : d.lookup? other = some entry) (hfile : entry.isFile = false) :
    d'.lookup? other = some entry := by
  by_cases hother : other = loc
  · obtain ⟨entry', hentry', hfile'⟩ := isFileAt_iff.1 h.file
    rw [hother, hentry'] at hentry
    rw [Option.some.inj hentry, hfile] at hfile'
    cases hfile'
  · rw [h.elsewhere other hother, hentry]

/-! ### Following a path -/

/-- There are directories in the same places. -/
theorem isDirectoryAt_eq (h : DiffersAt loc d d') (other : Location) :
    d'.isDirectoryAt other = d.isDirectoryAt other := by
  rw [isDirectoryAt, isDirectoryAt, decide_eq_decide]
  exact ⟨fun hdir => h.symm.lookup?_eq_some hdir rfl, fun hdir => h.lookup?_eq_some hdir rfl⟩

/-- A piece does the same on both disks. -/
theorem hop_eq (h : DiffersAt loc d d') (piece : List Char) (here : Location) :
    d'.hop piece here = d.hop piece here := by
  by_cases hpiece : piece :: here = loc
  · subst hpiece
    rw [hop_of_isFileAt h.file, hop_of_isFileAt h.file', h.isDirectoryAt_eq]
  · rw [hop, hop, h.isDirectoryAt_eq, h.elsewhere _ hpiece]

/-- A path leads to the same location on both disks. -/
theorem resolve_eq (h : DiffersAt loc d d') (p : Path) :
    d'.resolve .find p = d.resolve .find p := by
  exact resolve_congr (P := fun _ => True) (fun piece here _ _ => h.hop_eq piece here) h.current
    fun _ _ => trivial

/-! ### What a path leads to -/

/-- A path that does not lead to the file leads to the same entry on both disks. -/
theorem look_eq (h : DiffersAt loc d d') {p : Path} (hp : d.resolve .find p ≠ .ok loc) :
    d'.look p = d.look p := by
  -- both disks follow the path alike; only the entry at its end is to be compared
  rcases hresolve : d.resolve .find p with cause | other
  · rw [look_of_error hresolve, look_of_error (h.resolve_eq p ▸ hresolve)]
  · have hother : other ≠ loc := by
      rintro rfl
      exact hp hresolve
    rw [look_of_ok hresolve, look_of_ok (h.resolve_eq p ▸ hresolve), h.elsewhere other hother]

/-- So the same is read on it. -/
theorem read_eq (h : DiffersAt loc d d') {p : Path} (hp : d.resolve .find p ≠ .ok loc) :
    d'.read p = d.read p := by
  rw [read, read, h.look_eq hp]

theorem leadsToDirectory (h : DiffersAt loc d d') {p : Path} {other : Location}
    (hp : d.LeadsToDirectory p other) : d'.LeadsToDirectory p other := by
  rw [LeadsToDirectory, h.resolve_eq, h.isDirectoryAt_eq]
  exact hp

theorem isDirectory_eq (h : DiffersAt loc d d') (p : Path) : d'.isDirectory p = d.isDirectory p := by
  rw [Bool.eq_iff_iff, isDirectory_iff, isDirectory_iff]
  simp only [h.resolve_eq, h.isDirectoryAt_eq]

/-- A path that leads to a file does so on both disks. -/
theorem isFile (h : DiffersAt loc d d') {p : Path} (hp : d.isFile p = true) : d'.isFile p = true := by
  obtain ⟨other, hresolve, hfile⟩ := isFile_iff.1 hp
  rw [isFile_iff, h.resolve_eq]
  refine ⟨other, hresolve, ?_⟩
  by_cases hother : other = loc
  · -- the file in which the disks differ is a file on both
    rw [hother]
    exact h.file'
  · rw [isFileAt, h.elsewhere other hother]
    exact hfile

theorem holdsLink (h : DiffersAt loc d d') {dir : Path} {name : List Char}
    (hlink : d.HoldsLink dir name) : d'.HoldsLink dir name := by
  obtain ⟨here, target, hresolve, htarget⟩ := hlink
  exact ⟨here, target, (h.resolve_eq dir).trans hresolve, h.lookup?_eq_some htarget rfl⟩

/-! ### Walks -/

variable {exclude : List String} {root : Path}

/-- A descent that ends on a file does so on both disks. -/
theorem reaches (h : DiffersAt loc d d') {names : List (List Char)}
    (hreach : d.Reaches exclude root names) : d'.Reaches exclude root names where
  named := hreach.named
  directories front hfront hne := (h.isDirectory_eq _).trans (hreach.directories front hfront hne)
  included front name hfront hdir :=
    hreach.included front name hfront ((h.isDirectory_eq _).symm.trans hdir)
  acyclic front name hfront hlink other hother above habove habove' :=
    hreach.acyclic front name hfront (h.symm.holdsLink hlink) other (h.symm.leadsToDirectory hother)
      above habove (h.symm.leadsToDirectory habove')
  file := h.isFile hreach.file

theorem reaches_iff (h : DiffersAt loc d d') {names : List (List Char)} :
    d'.Reaches exclude root names ↔ d.Reaches exclude root names :=
  ⟨h.symm.reaches, h.reaches⟩

/-- A listing gives the same files in the same order on both disks. -/
theorem files_list (h : DiffersAt loc d d') (exclude : List String) (accept : Path → Bool)
    (root : Path) : (d'.list exclude accept root).files = (d.list exclude accept root).files := by
  apply Path.sort_eq_sort ((pairwise_walk d' exclude root).filter _)
    ((pairwise_walk d exclude root).filter _)
  intro p
  rw [List.mem_filter, List.mem_filter, mem_filterMap_file?, mem_filterMap_file?, file_mem_walk,
    file_mem_walk]
  simp only [h.reaches_iff]

end DiffersAt

end QualityGate.Disk
