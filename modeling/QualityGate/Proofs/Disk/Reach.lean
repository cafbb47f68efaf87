/-
Which files lie below a directory, said without a walk.

`Reaches d exclude root names` says that going down from `root` by the names ends on a file, over
directories that are not excluded, and without entering by a link a directory in which the descent
already is.

A walk knows of more directories in which it is than those below the place from which a part of it
starts.  `ReachesPast` keeps them in a list `seen`, and so comes apart at the first name
(`reachesPast_cons`).
-/
import QualityGate.Proofs.Disk.Resolution

namespace QualityGate.Disk

/-- The name below the directory that the path leads to is that of a link. -/
def HoldsLink (d : Disk) (dir : Path) (name : List Char) : Prop :=
  ∃ loc target, d.resolve .find dir = .ok loc ∧ d.lookup? (name :: loc) = some (.link target)

/-- The path leads to the directory at the location. -/
def LeadsToDirectory (d : Disk) (p : Path) (loc : Location) : Prop :=
  d.resolve .find p = .ok loc ∧ d.isDirectoryAt loc = true

/-- The names lead from `root` down to a file: all that is passed on the way is a directory, none
below `root` has an excluded name, and none that is entered by a link is one that was passed before. -/
structure Reaches (d : Disk) (exclude : List String) (root : Path) (names : List (List Char)) :
    Prop where
  named : ∀ name ∈ names, isEntryName name = true
  directories : ∀ front, front <+: names → front ≠ names → d.isDirectory (root.below front) = true
  included : ∀ front name, front ++ [name] <+: names →
    d.isDirectory (root.below (front ++ [name])) = true → String.ofList name ∉ exclude
  acyclic : ∀ front name, front ++ [name] <+: names → d.HoldsLink (root.below front) name →
    ∀ loc, d.LeadsToDirectory (root.below (front ++ [name])) loc →
      ∀ above, above <+: front → ¬ d.LeadsToDirectory (root.below above) loc
  file : d.isFile (root.below names) = true

/-- As `Reaches`, and no link enters a directory that has been seen already. -/
structure ReachesPast (d : Disk) (exclude : List String) (seen : List Location) (root : Path)
    (names : List (List Char)) : Prop extends Reaches d exclude root names where
  fresh : ∀ front name, front ++ [name] <+: names → d.HoldsLink (root.below front) name →
    ∀ loc, d.LeadsToDirectory (root.below (front ++ [name])) loc → loc ∉ seen

variable {d : Disk} {exclude : List String} {seen : List Location} {root : Path}

/-- Where nothing has been seen, nothing more is asked of a descent. -/
theorem reachesPast_empty {names : List (List Char)} :
    d.ReachesPast exclude [] root names ↔ d.Reaches exclude root names :=
  ⟨fun h => h.toReaches, fun h => ⟨h, fun _ _ _ _ _ _ => List.not_mem_nil⟩⟩

theorem LeadsToDirectory.unique {p : Path} {loc loc' : Location} (h : d.LeadsToDirectory p loc)
    (h' : d.LeadsToDirectory p loc') : loc = loc' :=
  Except.ok.inj (h.1.symm.trans h'.1)

theorem isDirectory_iff_leadsTo {p : Path} :
    d.isDirectory p = true ↔ ∃ loc, d.LeadsToDirectory p loc :=
  isDirectory_iff

/-- What leads to a directory leads to no file. -/
theorem not_isFile_of_leadsTo {p : Path} {loc : Location} (h : d.LeadsToDirectory p loc) :
    d.isFile p = false := by
  rw [← Bool.not_eq_true, isFile_iff]
  rintro ⟨loc', hloc, hfile⟩
  obtain rfl := Except.ok.inj (h.1.symm.trans hloc)
  have hdir := h.2
  rw [isDirectoryAt_of_isFileAt hfile] at hdir
  cases hdir

/-! ### The first name -/

/-- No name is left: the path itself has to lead to a file. -/
theorem reachesPast_nil : d.ReachesPast exclude seen root [] ↔ d.isFile root = true := by
  constructor
  · exact fun h => h.file
  · intro h
    refine ⟨⟨by simp, ?_, ?_, ?_, h⟩, ?_⟩
    · intro front hfront hne
      exact absurd (List.prefix_nil.1 hfront) hne
    -- without a name there is no step on which anything could be asked
    all_goals
      intro front name hfront
      exact absurd (List.prefix_nil.1 hfront) (by simp)

/-- What holds at every step of a descent holds at its first step and at every later one. -/
theorem forall_concat_prefix_cons {first : List Char} {rest : List (List Char)}
    {P : List (List Char) → List Char → Prop} :
    (∀ front name, front ++ [name] <+: first :: rest → P front name) ↔
      P [] first ∧ ∀ front name, front ++ [name] <+: rest → P (first :: front) name := by
  constructor
  · intro h
    refine ⟨h [] first (List.prefix_append _ _), fun front name hfront => h (first :: front) name ?_⟩
    exact List.cons_prefix_cons.2 ⟨rfl, hfront⟩
  · rintro ⟨hfirst, hrest⟩ front name hfront
    -- a step is the first one, or it is a step of the rest
    cases front with
    | nil =>
      obtain ⟨rfl, -⟩ := List.cons_prefix_cons.1 hfront
      exact hfirst
    | cons c front =>
      obtain ⟨rfl, hmore⟩ := List.cons_prefix_cons.1 hfront
      exact hrest front name hmore

/-- A descent from a directory is its first name and a descent from there, which has seen the directory
too. -/
theorem reachesPast_cons {loc : Location} {name : List Char} {rest : List (List Char)}
    (hroot : d.LeadsToDirectory root loc) :
    d.ReachesPast exclude seen root (name :: rest) ↔
      isEntryName name = true ∧
      (d.isDirectory (root.child (String.ofList name)) = true → String.ofList name ∉ exclude) ∧
      (d.HoldsLink root name → ∀ target,
        d.LeadsToDirectory (root.child (String.ofList name)) target → target ∉ loc :: seen) ∧
      d.ReachesPast exclude (loc :: seen) (root.child (String.ofList name)) rest := by
  constructor
  · intro h
    obtain ⟨hname, hnamed⟩ := List.forall_mem_cons.1 h.named
    obtain ⟨hincluded, hincluded'⟩ := forall_concat_prefix_cons.1 h.included
    obtain ⟨hacyclic, hacyclic'⟩ := forall_concat_prefix_cons.1 h.acyclic
    obtain ⟨hfresh, hfresh'⟩ := forall_concat_prefix_cons.1 h.fresh
    -- what is asked at the first name, and what the descent below still has to meet
    refine ⟨hname, hincluded, ?_, ⟨hnamed, ?_, hincluded', ?_, h.file⟩, ?_⟩
    · intro hlink target htarget hmem
      rcases List.mem_cons.1 hmem with rfl | hmem
      · exact hacyclic hlink _ htarget [] List.nil_prefix hroot
      · exact hfresh hlink target htarget hmem
    · intro front hfront hne
      refine h.directories (name :: front) (List.cons_prefix_cons.2 ⟨rfl, hfront⟩) ?_
      exact fun heq => hne (List.cons_eq_cons.1 heq).2
    · -- what is passed below the child was passed below `root`, one name later
      intro front last hfront hlink target htarget above habove
      exact hacyclic' front last hfront hlink target htarget (name :: above)
        (List.cons_prefix_cons.2 ⟨rfl, habove⟩)
    · -- `root` is what the child has seen more, and no link leads back to it
      intro front last hfront hlink target htarget hmem
      rcases List.mem_cons.1 hmem with rfl | hmem
      · exact hacyclic' front last hfront hlink _ htarget [] List.nil_prefix hroot
      · exact hfresh' front last hfront hlink target htarget hmem
  · rintro ⟨hname, hincluded, hlinked, h⟩
    -- from the first name and the descent below, each condition at every step
    refine ⟨⟨List.forall_mem_cons.2 ⟨hname, h.named⟩, ?_,
      forall_concat_prefix_cons.2 ⟨hincluded, h.included⟩, forall_concat_prefix_cons.2 ⟨?_, ?_⟩,
      h.file⟩, forall_concat_prefix_cons.2 ⟨?_, ?_⟩⟩
    · intro front hfront hne
      rcases List.prefix_cons_iff.1 hfront with rfl | ⟨more, rfl, hmore⟩
      · exact isDirectory_iff_leadsTo.2 ⟨loc, hroot⟩
      · exact h.directories more hmore fun heq => hne (by rw [heq])
    · intro hlink target htarget above habove hloc
      rw [List.prefix_nil.1 habove] at hloc
      exact hlinked hlink target htarget (hroot.unique hloc ▸ List.mem_cons_self)
    · intro front last hfront hlink target htarget above habove hloc
      rcases List.prefix_cons_iff.1 habove with rfl | ⟨more, rfl, hmore⟩
      · exact h.fresh front last hfront hlink target htarget (hroot.unique hloc ▸ List.mem_cons_self)
      · exact h.acyclic front last hfront hlink target htarget more hmore hloc
    · exact fun hlink target htarget hmem =>
        hlinked hlink target htarget (List.mem_cons_of_mem _ hmem)
    · exact fun front last hfront hlink target htarget hmem =>
        h.fresh front last hfront hlink target htarget (List.mem_cons_of_mem _ hmem)

/-- A descent that is not at its end goes on from a directory. -/
theorem ReachesPast.isDirectory {names : List (List Char)}
    (h : d.ReachesPast exclude seen root names) (hne : names ≠ []) : d.isDirectory root = true :=
  h.directories [] List.nil_prefix (Ne.symm hne)

/-- A descent that comes to a file is at its end. -/
theorem ReachesPast.eq_nil_of_isFile {names : List (List Char)}
    (h : d.ReachesPast exclude seen root names) (hfile : d.isFile root = true) : names = [] := by
  by_contra hne
  obtain ⟨loc, hloc⟩ := isDirectory_iff_leadsTo.1 (h.isDirectory hne)
  rw [not_isFile_of_leadsTo hloc] at hfile
  cases hfile

/-- A descent that comes to a directory is not at its end. -/
theorem ReachesPast.ne_nil_of_leadsTo {names : List (List Char)} {loc : Location}
    (h : d.ReachesPast exclude seen root names) (hloc : d.LeadsToDirectory root loc) :
    names ≠ [] := by
  rintro rfl
  have hfile := reachesPast_nil.1 h
  rw [not_isFile_of_leadsTo hloc] at hfile
  cases hfile

/-- A descent does not go on where nothing is led to. -/
theorem not_reachesPast_of_error {names : List (List Char)} {cause : IoError}
    (h : d.resolve .find root = .error cause) : ¬ d.ReachesPast exclude seen root names := by
  intro hreach
  by_cases hne : names = []
  · subst hne
    obtain ⟨loc, hloc, -⟩ := isFile_iff.1 hreach.file
    exact nomatch h.symm.trans hloc
  · obtain ⟨loc, hloc, -⟩ := isDirectory_iff_leadsTo.1 (hreach.isDirectory hne)
    exact nomatch h.symm.trans hloc

/-! ### The first name, by what it leads to -/

section FirstName

variable {loc target : Location} {name : List Char} {names rest : List (List Char)} {p : Path}

/-- Over a file a descent comes to that file only. -/
theorem exists_reachesPast_of_isFile (hroot : d.LeadsToDirectory root loc)
    (hname : isEntryName name = true) (hfile : d.isFile (root.child (String.ofList name)) = true) :
    (∃ rest, p = root.below (name :: rest) ∧ d.ReachesPast exclude seen root (name :: rest)) ↔
      p = root.child (String.ofList name) := by
  have hnowhere : ∀ loc, ¬ d.LeadsToDirectory (root.child (String.ofList name)) loc := by
    intro loc hloc
    rw [not_isFile_of_leadsTo hloc] at hfile
    cases hfile
  -- so nothing stands behind the name, and what is asked of directories holds of none
  simp only [reachesPast_cons hroot, Path.below_cons]
  constructor
  · rintro ⟨rest, rfl, -, -, -, hrest⟩
    rw [hrest.eq_nil_of_isFile hfile]
    rfl
  · rintro rfl
    refine ⟨[], rfl, hname, ?_, ?_, reachesPast_nil.2 hfile⟩
    · intro hdir
      obtain ⟨loc, hloc⟩ := isDirectory_iff_leadsTo.1 hdir
      exact absurd hloc (hnowhere loc)
    · intro _ target htarget
      exact absurd htarget (hnowhere target)

/-- Over a directory a descent goes on, unless the name is excluded or a link leads back. -/
theorem exists_reachesPast_of_directory (hroot : d.LeadsToDirectory root loc)
    (hname : isEntryName name = true) (hincluded : String.ofList name ∉ exclude)
    (htarget : d.LeadsToDirectory (root.child (String.ofList name)) target)
    (hfresh : d.HoldsLink root name → target ∉ loc :: seen) :
    (∃ rest, p = root.below (name :: rest) ∧ d.ReachesPast exclude seen root (name :: rest)) ↔
      ∃ rest, rest ≠ [] ∧ p = (root.child (String.ofList name)).below rest ∧
        d.ReachesPast exclude (loc :: seen) (root.child (String.ofList name)) rest := by
  simp only [reachesPast_cons hroot, Path.below_cons]
  constructor
  · rintro ⟨rest, hp, -, -, -, hrest⟩
    exact ⟨rest, hrest.ne_nil_of_leadsTo htarget, hp, hrest⟩
  · rintro ⟨rest, -, hp, hrest⟩
    refine ⟨rest, hp, hname, fun _ => hincluded, ?_, hrest⟩
    intro hlink target' htarget'
    -- the name leads to one directory only
    rw [← htarget.unique htarget']
    exact hfresh hlink

/-- No descent enters a directory with an excluded name. -/
theorem not_reachesPast_of_excluded (hroot : d.LeadsToDirectory root loc)
    (htarget : d.LeadsToDirectory (root.child (String.ofList name)) target)
    (hexcluded : String.ofList name ∈ exclude) :
    ¬ d.ReachesPast exclude seen root (name :: rest) := by
  intro h
  obtain ⟨-, hincluded, -, -⟩ := (reachesPast_cons hroot).1 h
  exact hincluded (isDirectory_iff_leadsTo.2 ⟨target, htarget⟩) hexcluded

/-- No descent enters by a link a directory in which it already is. -/
theorem not_reachesPast_of_loop (hroot : d.LeadsToDirectory root loc)
    (hlink : d.HoldsLink root name)
    (htarget : d.LeadsToDirectory (root.child (String.ofList name)) target)
    (hseen : target ∈ loc :: seen) : ¬ d.ReachesPast exclude seen root (name :: rest) := by
  intro h
  obtain ⟨-, -, hfresh, -⟩ := (reachesPast_cons hroot).1 h
  exact hfresh hlink target htarget hseen

/-- No descent goes over a name that leads nowhere. -/
theorem not_reachesPast_of_child_error {cause : IoError} (hroot : d.LeadsToDirectory root loc)
    (hchild : d.resolve .find (root.child (String.ofList name)) = .error cause) :
    ¬ d.ReachesPast exclude seen root (name :: rest) := by
  intro h
  obtain ⟨-, -, -, hrest⟩ := (reachesPast_cons hroot).1 h
  exact not_reachesPast_of_error hchild hrest

/-- A descent goes on over an entry of the directory that it is in. -/
theorem ReachesPast.head_mem_names (h : d.ReachesPast exclude seen root (name :: rest))
    (hroot : d.LeadsToDirectory root loc) : name ∈ d.names loc := by
  obtain ⟨hname, -, -, -⟩ := (reachesPast_cons hroot).1 h
  rw [mem_names]
  -- a name without an entry would lead nowhere
  rcases hlookup : d.lookup? (name :: loc) with - | entry
  · have hchild := resolve_child_of_none hroot.1 hroot.2 hname hlookup
    exact absurd h (not_reachesPast_of_child_error hroot hchild)
  · exact ⟨entry, rfl⟩

end FirstName

end QualityGate.Disk
