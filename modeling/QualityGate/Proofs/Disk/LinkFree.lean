/-
Disks without symbolic links.

On a disk without links a descent passes nothing twice, so whether a file can be reached from a
directory does not depend on what was passed before: the descents from a directory below `root` are the
rests of those from `root` (`Reaches.of_below`), provided that nothing on the way is excluded.

A path below another leads to a directory only if all that is on the way are directories and its names
are names that an entry can have (`isDirectory_of_below`); this holds on every disk.
-/
import QualityGate.Proofs.Disk.Walk

namespace QualityGate

/-- The entry is a symbolic link. -/
def Entry.isLink : Entry → Bool
  | .link _ => true
  | _ => false

namespace Disk

/-- No entry is a symbolic link. -/
def IsLinkFree (d : Disk) : Prop :=
  ∀ e ∈ d.entries, e.2.isLink = false

instance (d : Disk) : Decidable d.IsLinkFree :=
  inferInstanceAs (Decidable (∀ e ∈ d.entries, e.2.isLink = false))

variable {d : Disk} {exclude : List String} {root : Path} {loc mid : Location}
variable {name : List Char} {names rest : List (List Char)}

/-! ### Directories on the way -/

/-- A plain name that leads somewhere leads there from a directory. -/
theorem isDirectoryAt_of_follow {left : Nat} (hname : Path.IsPlainName name)
    (h : d.follow .find left [name] mid = .ok loc) :
    d.isDirectoryAt mid = true ∧ isEntryName name = true := by
  obtain ⟨hvoid, hparent⟩ := hname.1
  have halong (jump : List (List Char) → Location → Except IoError Location)
      (h : d.along .find jump [name] mid = .ok loc) :
      d.isDirectoryAt mid = true ∧ isEntryName name = true := by
    rw [along_find_cons, hop] at h
    by_cases hdir : d.isDirectoryAt mid = true
    · refine ⟨hdir, Path.isEntryName_iff.2 ⟨hname, ?_⟩⟩
      rw [hdir, hvoid, if_neg hparent] at h
      by_contra hlong
      rw [if_pos (Nat.lt_of_not_le hlong)] at h
      cases h
    · rw [Bool.not_eq_true] at hdir
      rw [hdir] at h
      cases h
  cases left with
  | zero => exact halong _ h
  | succ left => exact halong _ h

theorem follow_void {links : Nat} (hdir : d.isDirectoryAt loc = true) :
    d.follow .find links [[]] loc = .ok loc := by
  have halong (jump : List (List Char) → Location → Except IoError Location) :
      d.along .find jump [[]] loc = .ok loc := by
    rw [along_find_cons, hop, hdir]
    rfl
  cases links with
  | zero => exact halong _
  | succ links => exact halong _

/-- What is above something that is there is a directory, and the name below is that of an entry. -/
theorem isDirectory_of_child (hne : root.text ≠ "") (hname : Path.IsPlainName name)
    (h : d.resolve .find (root.child (String.ofList name)) = .ok loc) :
    d.isDirectory root = true ∧ isEntryName name = true := by
  rw [resolve_child_eq_follow hne hname] at h
  obtain ⟨front, hchild, hroot⟩ := Path.exists_pieces_child root hname
  rw [hchild] at h
  -- the pieces before the name lead to the directory in which the name was found
  rcases hfront : d.follow .find linkLimit front (root.startFrom d.current) with cause | mid
  · rw [follow_append_of_error hfront] at h
    cases h
  · obtain ⟨left, hleft⟩ := follow_append_of_ok hfront
    rw [hleft] at h
    obtain ⟨hdir, hentry⟩ := isDirectoryAt_of_follow hname h
    refine ⟨isDirectory_iff.2 ⟨mid, ?_, hdir⟩, hentry⟩
    rw [resolve, if_neg hne]
    rcases hroot with hroot | ⟨hroot, -⟩
    · rw [hroot, hleft, follow_void hdir]
    · rw [hroot, hfront]

/-- A path below another leads to a directory: so does the other one, and the names are those of
entries. -/
theorem isDirectory_of_below (hne : root.text ≠ "") (hnames : ∀ name ∈ names, Path.IsPlainName name)
    (h : d.isDirectory (root.below names) = true) :
    d.isDirectory root = true ∧ ∀ name ∈ names, isEntryName name = true := by
  induction names generalizing root with
  | nil => exact ⟨h, by simp⟩
  | cons name rest ih =>
    obtain ⟨hname, hrest⟩ := List.forall_mem_cons.1 hnames
    obtain ⟨hchild, hentries⟩ := ih (Path.text_child_ne_empty hne hname) hrest h
    obtain ⟨loc, hloc, -⟩ := isDirectory_iff.1 hchild
    obtain ⟨hroot, hentry⟩ := isDirectory_of_child hne hname hloc
    exact ⟨hroot, List.forall_mem_cons.2 ⟨hentry, hentries⟩⟩

/-! ### Descents -/

theorem IsLinkFree.not_holdsLink (h : d.IsLinkFree) : ¬ d.HoldsLink root name := by
  rintro ⟨loc, target, -, hlink⟩
  have hentry := h _ (mem_of_lookup? (List.cons_ne_nil _ _) hlink)
  cases hentry

/-- Without links it does not matter what was passed before. -/
theorem IsLinkFree.reachesPast_iff (h : d.IsLinkFree) (seen : List Location) :
    d.ReachesPast exclude seen root names ↔ d.Reaches exclude root names :=
  ⟨fun hreach => hreach.toReaches,
    fun hreach => ⟨hreach, fun _ _ _ hlink => absurd hlink h.not_holdsLink⟩⟩

/-- A descent from a directory below `root` is the rest of one from `root`. -/
theorem Reaches.of_below (hfree : d.IsLinkFree) (hne : root.text ≠ "")
    (hnames : ∀ name ∈ names, Path.IsPlainName name ∧ String.ofList name ∉ exclude)
    (hdir : d.isDirectory (root.below names) = true)
    (h : d.Reaches exclude (root.below names) rest) : d.Reaches exclude root (names ++ rest) := by
  induction names generalizing root with
  | nil => exact h
  | cons name more ih =>
    obtain ⟨⟨hname, hincluded⟩, hmore⟩ := List.forall_mem_cons.1 hnames
    have hplain : ∀ name ∈ more, Path.IsPlainName name := fun name hname => (hmore name hname).1
    have hne' := Path.text_child_ne_empty hne hname
    obtain ⟨hchild, -⟩ := isDirectory_of_below hne' hplain hdir
    obtain ⟨target, htarget, -⟩ := isDirectory_iff.1 hchild
    obtain ⟨hroot, hentry⟩ := isDirectory_of_child hne hname htarget
    obtain ⟨loc, hloc⟩ := isDirectory_iff_leadsTo.1 hroot
    have hreach := ih hne' hmore hdir h
    rw [← reachesPast_empty, List.cons_append, reachesPast_cons hloc]
    refine ⟨hentry, fun _ => hincluded, ?_, (hfree.reachesPast_iff _).2 hreach⟩
    exact fun hlink => absurd hlink hfree.not_holdsLink

/-- What is listed below a directory is listed for every directory above it too, spelled alike. -/
theorem mem_files_of_below {accept : Path → Bool} {p : Path} (hfree : d.IsLinkFree)
    (hne : root.text ≠ "")
    (hnames : ∀ name ∈ names, Path.IsPlainName name ∧ String.ofList name ∉ exclude)
    (hdir : d.isDirectory (root.below names) = true)
    (h : p ∈ (d.list exclude accept (root.below names)).files) :
    p ∈ (d.list exclude accept root).files := by
  obtain ⟨⟨rest, rfl, hreach⟩, haccept⟩ := mem_files_list.1 h
  have hreach' : d.Reaches exclude root (names ++ rest) := hreach.of_below hfree hne hnames hdir
  exact mem_files_list.2 ⟨⟨names ++ rest, (root.below_append names rest).symm, hreach'⟩, haccept⟩

end Disk

end QualityGate
