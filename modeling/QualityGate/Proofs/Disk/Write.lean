/-
What is written can be read back.

A path that is written to is followed as one that is read, except that nothing need be at its last name
(`step_of_along_make`).  So it leads to a location that can hold a file, or to a directory, which is
refused (`resolve_make_isOpen`).  Behind the write the same pieces lead to that location, over the same
links, since nothing else has changed (`WrittenAt.resolve_find`); and there the bytes are
(`read_write`).
-/
import QualityGate.Proofs.Disk.Agreement

namespace QualityGate.Disk

variable {d d' : Disk} {loc here : Location} {piece : List Char} {rest : List (List Char)}
  {jump jump' : List (List Char) → Location → Except IoError Location}

/-! ### One piece on the way to a file that may be made -/

/-- What one piece does on a way that leads somewhere: it goes on, it jumps, or it is the last one and
names what is not there yet. -/
theorem step_of_along_make (h : d.along .make jump (piece :: rest) here = .ok loc) :
    (∃ next, d.hop piece here = .go next ∧ d.along .make jump rest next = .ok loc) ∨
    (∃ target, d.hop piece here = .jump target ∧
      jump (target.pieces ++ rest) (target.startFrom here) = .ok loc) ∨
    (rest = [] ∧ loc = piece :: here ∧ d.isDirectoryAt here = true ∧ d.lookup? loc = none ∧
      (Path.isVoid piece = false ∧ piece ≠ ['.', '.']) ∧ (Text.encode piece).length ≤ nameLimit) := by
  rw [along] at h
  split at h
  · cases h
  rename_i hdir
  rw [Bool.not_eq_true', Bool.not_eq_false] at hdir
  split at h
  · next hvoid => exact .inl ⟨here, by simp [hop, hdir, hvoid], h⟩
  rename_i hvoid
  split at h
  · next hparent => exact .inl ⟨here.tail, by simp [hop, hdir, hparent, Path.isVoid], h⟩
  rename_i hparent
  split at h
  · cases h
  rename_i hshort
  split at h
  · cases h
  -- the piece is a name, and its entry decides
  rw [Bool.not_eq_true] at hvoid
  split at h
  · next hnone =>
    rw [missing] at h
    split at h
    · next hlast =>
      obtain rfl := Except.ok.inj h
      exact .inr (.inr ⟨hlast.2, rfl, hdir, hnone, ⟨hvoid, hparent⟩, Nat.not_lt.1 hshort⟩)
    · cases h
  · next target hlink =>
    exact .inr (.inl ⟨target, by simp [hop, hdir, hvoid, hparent, hshort, hlink], h⟩)
  · next entry hplain hentry =>
    refine .inl ⟨piece :: here, ?_, h⟩
    cases entry with
    | link target => exact absurd rfl (hplain target)
    | _ => simp [hop, hdir, hvoid, hparent, hshort, hentry]

/-! ### Where a file is made -/

/-- A file can be put at the location or is there, or there is a directory. -/
def isOpenAt (d : Disk) (loc : Location) : Prop :=
  d.settledAt loc ∨ d.canHold loc = true ∧ d.lookup? loc = none

/-- Pieces without slashes that lead somewhere lead to where a file can be, or to a directory. -/
theorem along_isOpen
    (hjump : ∀ ps here, ps ≠ [] → (∀ piece ∈ ps, '/' ∉ piece) → jump ps here = .ok loc →
      d.isOpenAt loc)
    (ps : List (List Char)) (here : Location) (hslash : ∀ piece ∈ ps, '/' ∉ piece)
    (hstart : ps = [] → d.isOpenAt here) (h : d.along .make jump ps here = .ok loc) :
    d.isOpenAt loc := by
  induction ps generalizing here with
  | nil =>
    obtain rfl := Except.ok.inj h
    exact hstart rfl
  | cons piece rest ih =>
    obtain ⟨hpiece, hrest⟩ := List.forall_mem_cons.1 hslash
    -- the piece goes on, jumps, or is the last one and its file is still to be made
    rcases step_of_along_make h with ⟨next, hhop, h⟩ | ⟨target, -, h⟩ | ⟨-, rfl, hdir, hnone, hname⟩
    · exact ih next hrest (fun _ => .inl (settledAt_of_hop hhop)) h
    · refine hjump _ _ ?_ ?_ h
      · exact List.append_ne_nil_of_left_ne_nil (Text.splitOn_ne_nil _ _) rest
      · intro other hother
        rcases List.mem_append.1 hother with hother | hother
        · exact Text.notMem_of_mem_splitOn hother
        · exact hrest other hother
    · have hentry : isEntryName piece = true :=
        Path.isEntryName_iff.2 ⟨⟨hname.1, hpiece⟩, hname.2⟩
      refine .inr ⟨canHold_iff.2 ⟨⟨List.cons_ne_nil _ _, ?_⟩, hdir⟩, hnone⟩
      rw [List.all_cons, hentry, all_isEntryName_of_isDirectoryAt hdir]
      rfl

theorem follow_isOpen {links : Nat} {ps : List (List Char)} (hne : ps ≠ [])
    (hslash : ∀ piece ∈ ps, '/' ∉ piece) (h : d.follow .make links ps here = .ok loc) :
    d.isOpenAt loc := by
  induction links generalizing ps here with
  | zero =>
    refine along_isOpen ?_ ps here hslash (fun h => absurd h hne) h
    exact fun _ _ _ _ h => nomatch h
  | succ links ih =>
    exact along_isOpen (fun _ _ hne hslash h => ih hne hslash h) ps here hslash
      (fun h => absurd h hne) h

/-- A path for a file that may be made leads to where a file can be, or to a directory. -/
theorem resolve_make_isOpen {p : Path} (h : d.resolve .make p = .ok loc) : d.isOpenAt loc := by
  rw [resolve] at h
  split at h
  · cases h
  · exact follow_isOpen (Text.splitOn_ne_nil _ _) (fun _ => Text.notMem_of_mem_splitOn) h

/-- What is open and no directory can hold a file and holds no link. -/
theorem canHold_of_isOpenAt (h : d.isOpenAt loc) (hdir : d.isDirectoryAt loc = false) :
    d.canHold loc = true ∧ ∀ target, d.lookup? loc ≠ some (.link target) := by
  rcases h with (hdir' | hfile) | ⟨hhold, hnone⟩
  · rw [hdir] at hdir'
    cases hdir'
  · refine ⟨canHold_of_isFileAt hfile, fun target hlink => ?_⟩
    obtain ⟨entry, hentry, hentryFile⟩ := isFileAt_iff.1 hfile
    rw [Option.some.inj (hentry.symm.trans hlink)] at hentryFile
    cases hentryFile
  · exact ⟨hhold, by simp [hnone]⟩

/-! ### Behind a write -/

/-- The second disk is the first one with a file at the location, where no directory and no link was. -/
structure WrittenAt (loc : Location) (bytes : List UInt8) (d d' : Disk) : Prop where
  current : d'.current = d.current
  elsewhere : ∀ other, other ≠ loc → d'.lookup? other = d.lookup? other
  file : d'.lookup? loc = some (.file bytes)
  noDirectory : d.isDirectoryAt loc = false
  noLink : ∀ target, d.lookup? loc ≠ some (.link target)

/-- Putting a file where no directory is makes the disk behind a write. -/
theorem writtenAt_put (h : d.isOpenAt loc) (hdir : d.isDirectoryAt loc = false) (bytes : List UInt8) :
    WrittenAt loc bytes d (d.put loc (.file bytes)) := by
  obtain ⟨hhold, hlink⟩ := canHold_of_isOpenAt h hdir
  exact ⟨current_put hhold hdir, fun _ => lookup?_put_of_ne hhold hdir, lookup?_put_self hhold hdir,
    hdir, hlink⟩

namespace WrittenAt

variable {bytes : List UInt8}

theorem isFileAt (h : WrittenAt loc bytes d d') : d'.isFileAt loc = true :=
  isFileAt_iff.2 ⟨_, h.file, rfl⟩

/-- A write makes and removes no directory. -/
theorem isDirectoryAt_eq (h : WrittenAt loc bytes d d') (other : Location) :
    d'.isDirectoryAt other = d.isDirectoryAt other := by
  by_cases hother : other = loc
  · rw [hother, isDirectoryAt_of_isFileAt h.isFileAt, h.noDirectory]
  · rw [isDirectoryAt, isDirectoryAt, h.elsewhere other hother]

/-- A piece that leads on leads to the same location. -/
theorem hop_of_go (h : WrittenAt loc bytes d d') {next : Location} (hhop : d.hop piece here = .go next) :
    d'.hop piece here = .go next := by
  by_cases hpiece : piece :: here = loc
  · subst hpiece
    rw [hop_of_isFileAt h.isFileAt, h.isDirectoryAt_eq]
    rcases hentry : d.lookup? (piece :: here) with - | entry
    · -- nothing was there, so the piece leads on without its entry
      rw [hop, hentry] at hhop
      split_ifs at hhop ⊢ <;> exact hhop
    · -- neither a directory nor a link was there, so a file was, and a piece leads on to it as well
      have hplain : ∀ target, entry ≠ .link target := fun target hlink =>
        h.noLink target (hlink ▸ hentry)
      have hdir : ¬ d.isDirectoryAt (piece :: here) = true := by simp [h.noDirectory]
      rw [hop_of_isFileAt ((settledAt_of_plain hentry hplain).resolve_left hdir)] at hhop
      exact hhop
  · rw [hop, h.isDirectoryAt_eq, h.elsewhere _ hpiece]
    exact hhop

/-- A piece that jumps jumps to the same target. -/
theorem hop_of_jump (h : WrittenAt loc bytes d d') {target : Path}
    (hhop : d.hop piece here = .jump target) : d'.hop piece here = .jump target := by
  -- the file is not where the link is
  have hpiece : piece :: here ≠ loc := by
    rintro rfl
    rw [hop] at hhop
    split_ifs at hhop
    split at hhop
    · cases hhop
    · next other hlink => exact h.noLink other hlink
    · cases hhop
  rw [hop, h.isDirectoryAt_eq, h.elsewhere _ hpiece]
  exact hhop

/-- The name at which the file has been made leads to it. -/
theorem hop_of_made (h : WrittenAt (piece :: here) bytes d d') (hdir : d.isDirectoryAt here = true)
    (hname : Path.isVoid piece = false ∧ piece ≠ ['.', '.'])
    (hshort : (Text.encode piece).length ≤ nameLimit) : d'.hop piece here = .go (piece :: here) := by
  rw [hop_of_isFileAt h.isFileAt, h.isDirectoryAt_eq]
  simp [hdir, hname, hshort]

/-! ### The way back -/

/-- Pieces that led to the location when the file was made lead to it behind the write. -/
theorem along_find (h : WrittenAt loc bytes d d')
    (hjump : ∀ ps here, jump ps here = .ok loc → jump' ps here = .ok loc)
    (ps : List (List Char)) (here : Location) (hmake : d.along .make jump ps here = .ok loc) :
    d'.along .find jump' ps here = .ok loc := by
  induction ps generalizing here with
  | nil => exact hmake
  | cons piece rest ih =>
    rw [along_find_cons]
    -- what a piece did then it does now; the last one now finds the file
    rcases step_of_along_make hmake with ⟨next, hhop, hmake⟩ | ⟨target, hhop, hmake⟩ |
      ⟨rfl, rfl, hdir, -, hname, hshort⟩
    · rw [h.hop_of_go hhop]
      exact ih next hmake
    · rw [h.hop_of_jump hhop]
      exact hjump _ _ hmake
    · rw [h.hop_of_made hdir hname hshort]
      rfl

/-- So it is over any number of links. -/
theorem follow_find (h : WrittenAt loc bytes d d') (links : Nat) (ps : List (List Char))
    (here : Location) (hmake : d.follow .make links ps here = .ok loc) :
    d'.follow .find links ps here = .ok loc := by
  induction links generalizing ps here with
  | zero => exact h.along_find (fun _ _ h => h) ps here hmake
  | succ links ih => exact h.along_find ih ps here hmake

/-- The path that was followed to write the file leads to the file. -/
theorem resolve_find (h : WrittenAt loc bytes d d') {p : Path} (hmake : d.resolve .make p = .ok loc) :
    d'.resolve .find p = .ok loc := by
  rw [resolve] at hmake ⊢
  split at hmake
  · cases hmake
  · next hne =>
    rw [if_neg hne, h.current]
    exact h.follow_find _ _ _ hmake

end WrittenAt

/-- What is written on a path can be read on it. -/
theorem read_write {p : Path} {bytes : List UInt8} (h : d.write p bytes = .ok d') :
    d'.read p = .ok bytes := by
  rcases hmake : d.resolve .make p with cause | loc
  · simp [write, hmake, bind, Except.bind] at h
  · rcases hdir : d.isDirectoryAt loc with - | -
    · have hwritten := writtenAt_put (resolve_make_isOpen hmake) hdir bytes
      obtain rfl : d.put loc (.file bytes) = d' := by
        simpa [write, hmake, hdir, bind, Except.bind, pure, Except.pure] using h
      rw [read, look_of_ok (hwritten.resolve_find hmake), hwritten.file]
      rfl
    · -- a directory is refused
      simp [write, hmake, hdir, bind, Except.bind, throw, throwThe, MonadExceptOf.throw] at h

end QualityGate.Disk
