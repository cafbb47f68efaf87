/-
What a path leads to, decided by a part of the disk.

If all that a path passes is at a directory `top`, below it or above it, then the path leads to the same on
every disk that agrees with this one at `top` and below (`AgreesBelow.resolve_eq`): what is above `top` are
directories on both disks, since every disk is a tree.  Only a link can lead elsewhere: without one on the
way, the path of a location passes nothing but what is above the location (`suffix_of_mem_passes_pathOf`),
and leads there (`resolve_pathOf`).
-/
import QualityGate.Proofs.Disk.Passage
import QualityGate.Proofs.Path.Ancestors

namespace QualityGate.Disk

variable {d d' : Disk} {top loc here : Location} {p : Path} {piece name : List Char}
  {names : List (List Char)}

/-! ### Locations beside a directory -/

/-- The location is at another one, below it or above it. -/
def IsBeside (top loc : Location) : Prop :=
  top <:+ loc ∨ loc <:+ top

instance (top loc : Location) : Decidable (IsBeside top loc) :=
  inferInstanceAs (Decidable (_ ∨ _))

/-! ### Disks that agree -/

/-- The disks are the same at the directory and below. -/
structure AgreesBelow (top : Location) (d d' : Disk) : Prop where
  current : d'.current = d.current
  isDirectory : d.isDirectoryAt top = true
  below : ∀ loc, top <:+ loc → d'.lookup? loc = d.lookup? loc

namespace AgreesBelow

theorem lookup?_eq (h : AgreesBelow top d d') (hloc : IsBeside top loc) :
    d'.lookup? loc = d.lookup? loc := by
  rcases hloc with hloc | hloc
  · exact h.below loc hloc
  · -- what is above a directory is a directory
    have htop : d'.isDirectoryAt top = true := by
      rw [isDirectoryAt, h.below top List.suffix_rfl]
      exact h.isDirectory
    have hdir := isDirectoryAt_above h.isDirectory hloc
    have hdir' := isDirectoryAt_above htop hloc
    rw [isDirectoryAt, decide_eq_true_eq] at hdir hdir'
    rw [hdir, hdir']

/-- A piece does the same on both disks. -/
theorem hop_eq (h : AgreesBelow top d d') (hloc : IsBeside top loc)
    (hplace : IsBeside top ((d.hop piece loc).place piece loc)) :
    d'.hop piece loc = d.hop piece loc := by
  have hsame : d'.isDirectoryAt loc = d.isDirectoryAt loc := by
    rw [isDirectoryAt, isDirectoryAt, h.lookup?_eq hloc]
  rw [hop, hop, hsame]
  rw [hop] at hplace
  by_cases hdir : d.isDirectoryAt loc = true
  · by_cases hvoid : Path.isVoid piece = true
    · simp only [hvoid, if_true]
    · by_cases hparent : piece = ['.', '.']
      · simp only [hparent, if_true]
      · by_cases hlong : nameLimit < (Text.encode piece).length
        · simp only [hlong, if_true]
        · -- whatever else a name does, it looks at the location below
          rw [hdir, if_neg (by decide), if_neg hvoid, if_neg hparent, if_neg hlong] at hplace
          have hname : IsBeside top (piece :: loc) := by
            split at hplace <;> exact hplace
          rw [h.lookup?_eq hname]
  · rw [Bool.not_eq_true] at hdir
    rw [hdir]
    rfl

/-- A path that stays beside the directory leads to the same on both disks. -/
theorem resolve_eq (h : AgreesBelow top d d') (hp : ∀ loc ∈ d.passes p, IsBeside top loc) :
    d'.resolve .find p = d.resolve .find p :=
  resolve_congr (fun _ _ hloc hplace => h.hop_eq hloc hplace) h.current hp

/-- What it leads to is the same as well, since it is one of the locations that are looked at. -/
theorem look_eq (h : AgreesBelow top d d') (hp : ∀ loc ∈ d.passes p, IsBeside top loc) :
    d'.look p = d.look p := by
  rcases hresolve : d.resolve .find p with cause | loc
  · rw [look_of_error hresolve, look_of_error (h.resolve_eq hp ▸ hresolve)]
  · rw [look_of_ok hresolve, look_of_ok (h.resolve_eq hp ▸ hresolve),
      h.lookup?_eq (hp loc (mem_passes hresolve))]

end AgreesBelow

/-! ### Paths without links -/

/-- A plain name stops, goes down by one step, or is that of a link. -/
theorem hop_of_isPlainName (hname : Path.IsPlainName name) :
    (∃ cause, d.hop name loc = .stop cause) ∨ d.hop name loc = .go (name :: loc) ∨
      ∃ target, d.lookup? (name :: loc) = some (.link target) := by
  obtain ⟨⟨hvoid, hparent⟩, -⟩ := hname
  by_cases hdir : d.isDirectoryAt loc = true
  · by_cases hlong : nameLimit < (Text.encode name).length
    · exact .inl ⟨.nameTooLong, by simp [hop, hdir, hvoid, hparent, hlong]⟩
    · rcases hentry : d.lookup? (name :: loc) with - | entry
      · exact .inl ⟨.notFound, by simp [hop, hdir, hvoid, hparent, hlong, hentry]⟩
      · cases entry with
        | link target => exact .inr (.inr ⟨target, rfl⟩)
        | _ => exact .inr (.inl (by simp [hop, hdir, hvoid, hparent, hlong, hentry]))
  · exact .inl ⟨.notDirectory, by simp [hop, hdir]⟩

/-- Without a link on the way down, nothing but the way down is looked at. -/
theorem suffix_of_mem_passedAlong {passedOver : List (List Char) → Location → List Location}
    (hnames : ∀ name ∈ names, Path.IsPlainName name)
    (hlinks : ∀ loc, loc <:+ names.reverse ++ here → ∀ target, d.lookup? loc ≠ some (.link target))
    (hloc : loc ∈ d.passedAlong passedOver names here) : loc <:+ names.reverse ++ here := by
  induction names generalizing here with
  | nil =>
    rw [List.mem_singleton.1 hloc]
    exact List.suffix_rfl
  | cons name rest ih =>
    obtain ⟨hname, hrest⟩ := List.forall_mem_cons.1 hnames
    rw [List.reverse_cons, List.append_assoc, List.singleton_append] at hlinks ⊢
    have hbelow : name :: here <:+ rest.reverse ++ name :: here := List.suffix_append _ _
    rw [passedAlong] at hloc
    rcases List.mem_cons.1 hloc with rfl | hloc
    · exact (List.suffix_cons name loc).trans hbelow
    · rcases hop_of_isPlainName hname with ⟨cause, hhop⟩ | hhop | ⟨target, hlink⟩
      · rw [hhop, List.mem_singleton] at hloc
        rw [hloc]
        exact hbelow
      · rw [hhop] at hloc
        exact ih hrest hlinks hloc
      · exact absurd hlink (hlinks _ hbelow target)

/-- The path of a location passes only what is above it, if there is no link. -/
theorem suffix_of_mem_passes_pathOf (hnames : ∀ name ∈ here, Path.IsPlainName name) (hne : here ≠ [])
    (hlinks : ∀ loc, loc <:+ here → ∀ target, d.lookup? loc ≠ some (.link target))
    (hloc : loc ∈ d.passes (pathOf here)) : loc <:+ here := by
  have hpieces := Path.pieces_pathOf hnames hne
  have hstart : (pathOf here).startFrom d.current = [] := by
    have habsolute := Path.isAbsolute_iff_pieces.2 ⟨_, List.reverse_eq_nil_iff.not.2 hne, hpieces⟩
    rw [Path.startFrom, habsolute]
    rfl
  -- the empty piece before the first slash stays at the root
  have hroot : d.hop [] [] = .go [] := rfl
  have hdown : loc ∈ d.passed linkLimit here.reverse [] := by
    rw [passes, hpieces, hstart] at hloc
    change loc ∈ d.passedAlong _ _ _ at hloc
    rw [passedAlong, hroot] at hloc
    rcases List.mem_cons.1 hloc with rfl | hloc
    · exact head_mem_passedAlong _ _ _
    · exact hloc
  have hsuffix : loc <:+ here.reverse.reverse ++ [] :=
    suffix_of_mem_passedAlong (fun name hname => hnames name (List.mem_reverse.1 hname))
      (by simpa using hlinks) hdown
  simpa using hsuffix

/-- The path of a location leads there, if there is no link at it. -/
theorem resolve_pathOf (h : d.settledAt loc) : d.resolve .find (pathOf loc) = .ok loc := by
  induction loc with
  | nil => rfl
  | cons name above ih =>
    obtain ⟨entry, hentry, hplain⟩ :
        ∃ entry, d.lookup? (name :: above) = some entry ∧ ∀ target, entry ≠ .link target := by
      rcases h with hdir | hfile
      · exact ⟨.directory, of_decide_eq_true hdir, by simp⟩
      · obtain ⟨entry, hentry, hentryFile⟩ := isFileAt_iff.1 hfile
        refine ⟨entry, hentry, ?_⟩
        rintro target rfl
        cases hentryFile
    have hmem := mem_of_lookup? (List.cons_ne_nil name above) hentry
    have habove : d.isDirectoryAt above = true := isDirectoryAt_tail_of_mem hmem
    have hentries := List.all_eq_true.1 (d.named _ hmem).2
    obtain ⟨hname, hnames⟩ := List.forall_mem_cons.1 hentries
    rw [← Path.child_pathOf (fun name hname => Path.isPlainName_of_isEntryName (hnames name hname))
      (Path.isPlainName_of_isEntryName hname)]
    exact resolve_child_of_plain (ih (.inl habove)) habove hname hentry hplain

theorem holds_of_resolve {entry : Entry} (h : d.resolve .find p = .ok loc)
    (hentry : d.lookup? loc = some entry) : d.holds p = true := by
  rw [holds, look_of_ok h, hentry]
  rfl

end QualityGate.Disk
