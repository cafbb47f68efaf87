/-
Which configuration file a run takes.

The search goes from the project upwards and ends in the first directory that holds a configuration file
or a repository, so it finds the file of the nearest directory that has one, with no repository nearer
(`findIn?_eq_some_iff`).  Nothing matters but what the paths that are searched lead to (`findIn?_congr`).

What is outside of a repository can still matter, since a configuration file may be a link that leads out
of it (`find?_through_link`).  If the paths that are searched stay beside the repository, the search finds
the same whatever is outside (`findIn?_of_staysBeside`); so they do below a repository in which the two
names are no links (`IsRepositoryOf.staysBeside`).
-/
import QualityGate.Config.Discovery
import QualityGate.Proofs.Disk.Agreement
import QualityGate.Proofs.Disk.Confinement

namespace QualityGate.Config

variable {d d' : Disk} {dirs rest : List Path} {dir first p project : Path} {top here : Location}
  {name : String}

/-! ### The nearest file -/

/-- The nearest of the directories that holds a configuration file: no nearer one holds one, or a
repository. -/
def IsNearest (d : Disk) (dirs : List Path) (dir : Path) : Prop :=
  ∃ near far, dirs = near ++ dir :: far ∧ d.isFile (dir.child fileName) = true ∧
    ∀ nearer ∈ near,
      d.isFile (nearer.child fileName) = false ∧ d.holds (nearer.child repositoryName) = false

theorem not_isNearest_nil : ¬ IsNearest d [] dir := by
  rintro ⟨near, far, hdirs, -⟩
  simp at hdirs

theorem isNearest_cons :
    IsNearest d (first :: rest) dir ↔
      d.isFile (first.child fileName) = true ∧ dir = first ∨
      (d.isFile (first.child fileName) = false ∧ d.holds (first.child repositoryName) = false) ∧
        IsNearest d rest dir := by
  constructor
  · rintro ⟨near, far, hdirs, hfile, hnear⟩
    cases near with
    | nil =>
      obtain ⟨rfl, -⟩ := List.cons_eq_cons.1 hdirs
      exact .inl ⟨hfile, rfl⟩
    | cons nearer near =>
      obtain ⟨rfl, hrest⟩ := List.cons_eq_cons.1 hdirs
      obtain ⟨hfirst, hnear⟩ := List.forall_mem_cons.1 hnear
      exact .inr ⟨hfirst, near, far, hrest, hfile, hnear⟩
  · rintro (⟨hfile, rfl⟩ | ⟨hfirst, near, far, rfl, hfile, hnear⟩)
    · exact ⟨[], rest, rfl, hfile, by simp⟩
    · exact ⟨first :: near, far, rfl, hfile, List.forall_mem_cons.2 ⟨hfirst, hnear⟩⟩

theorem findIn?_eq_some_iff :
    findIn? d dirs = some p ↔ ∃ dir, IsNearest d dirs dir ∧ p = dir.child fileName := by
  induction dirs with
  | nil => simp [findIn?, not_isNearest_nil]
  | cons first rest ih =>
    rw [findIn?]
    simp only [isNearest_cons]
    by_cases hfile : d.isFile (first.child fileName) = true
    · rw [if_pos hfile, Option.some_inj]
      constructor
      · rintro rfl
        exact ⟨first, .inl ⟨hfile, rfl⟩, rfl⟩
      · rintro ⟨dir, ⟨-, rfl⟩ | ⟨⟨hnone, -⟩, -⟩, rfl⟩
        · rfl
        · exact absurd hfile (by rw [hnone]; decide)
    · by_cases hholds : d.holds (first.child repositoryName) = true
      · simp [hfile, hholds]
      · simp [hfile, hholds, ih]

theorem findIn?_eq_none_iff : findIn? d dirs = none ↔ ∀ dir, ¬ IsNearest d dirs dir := by
  rw [Option.eq_none_iff_forall_ne_some]
  simp only [ne_eq, findIn?_eq_some_iff, not_exists, not_and]
  exact ⟨fun h dir hdir => h _ dir hdir rfl, fun h _ dir hdir => absurd hdir (h dir)⟩

/-! ### What is searched -/

/-- The names that are looked for in a directory. -/
def searchedNames : List String :=
  [fileName, repositoryName]

/-- The paths that are looked at, up to the first configuration file or the first repository. -/
def searched (d : Disk) : List Path → List Path
  | [] => []
  | dir :: rest =>
    dir.child fileName ::
      if d.isFile (dir.child fileName) then []
      else dir.child repositoryName ::
        if d.holds (dir.child repositoryName) then [] else searched d rest

/-- A searched path is that of one of the two names in the first directory, or one that is searched behind
it, where the first directory holds no repository. -/
theorem mem_searched_cons (h : p ∈ searched d (first :: rest)) :
    (∃ name ∈ searchedNames, p = first.child name) ∨
      ¬ d.holds (first.child repositoryName) = true ∧ p ∈ searched d rest := by
  rw [searched] at h
  rcases List.mem_cons.1 h with hp | h
  · exact .inl ⟨fileName, by simp [searchedNames], hp⟩
  · split at h
    · cases h
    · rcases List.mem_cons.1 h with hp | h
      · exact .inl ⟨repositoryName, by simp [searchedNames], hp⟩
      · split at h
        · cases h
        · next hrepository => exact .inr ⟨hrepository, h⟩

/-- Only what the searched paths lead to matters. -/
theorem findIn?_congr (h : ∀ p ∈ searched d dirs, d'.look p = d.look p) :
    findIn? d' dirs = findIn? d dirs := by
  induction dirs with
  | nil => rfl
  | cons first rest ih =>
    rw [searched] at h
    obtain ⟨hfile, hmore⟩ := List.forall_mem_cons.1 h
    have hfile' : d'.isFile (first.child fileName) = d.isFile (first.child fileName) := by
      rw [Disk.isFile, Disk.isFile, hfile]
    rw [findIn?, findIn?, hfile']
    by_cases hfound : d.isFile (first.child fileName) = true
    · rw [if_pos hfound, if_pos hfound]
    · -- the repository is looked for only here, and the search goes on only where there is none
      rw [if_neg hfound] at hmore ⊢
      obtain ⟨hholds, hrest⟩ := List.forall_mem_cons.1 hmore
      have hholds' : d'.holds (first.child repositoryName) = d.holds (first.child repositoryName) := by
        rw [Disk.holds, Disk.holds, hholds]
      rw [if_neg hfound, hholds']
      by_cases hrepository : d.holds (first.child repositoryName) = true
      · rw [if_pos hrepository, if_pos hrepository]
      · rw [if_neg hrepository] at hrest
        rw [ih hrest]

/-! ### What is outside -/

/-- The searched paths pass nothing but what is beside the directory at `top`. -/
def StaysBeside (d : Disk) (top : Location) (dirs : List Path) : Prop :=
  ∀ p ∈ searched d dirs, ∀ loc ∈ d.passes p, Disk.IsBeside top loc

instance (d : Disk) (top : Location) (dirs : List Path) : Decidable (StaysBeside d top dirs) :=
  inferInstanceAs (Decidable (∀ p ∈ searched d dirs, ∀ loc ∈ d.passes p, Disk.IsBeside top loc))

theorem findIn?_of_staysBeside (h : Disk.AgreesBelow top d d') (hstays : StaysBeside d top dirs) :
    findIn? d' dirs = findIn? d dirs :=
  findIn?_congr fun p hp => h.look_eq (hstays p hp)

/-- The directory at `top` holds a repository, and from the directory at `here` up to it neither of the
two names is a link. -/
structure IsRepositoryOf (d : Disk) (top here : Location) : Prop where
  above : top <:+ here
  isDirectory : d.isDirectoryAt here = true
  held : ∃ entry, d.lookup? (repositoryName.toList :: top) = some entry
  noLink : ∀ dir, top <:+ dir → dir <:+ here → ∀ name ∈ searchedNames,
    ∀ target, d.lookup? (name.toList :: dir) ≠ some (.link target)

theorem isPlainName_of_mem_searchedNames :
    ∀ name ∈ searchedNames, Path.IsPlainName name.toList := by
  decide

/-- The paths that are looked for below a directory are those of the locations below. -/
theorem child_pathOf_searched (hdir : d.isDirectoryAt here = true) (hname : name ∈ searchedNames) :
    (Disk.pathOf here).child name = Disk.pathOf (name.toList :: here) := by
  have hnames := List.all_eq_true.1 (Disk.all_isEntryName_of_isDirectoryAt hdir)
  rw [← Path.child_pathOf (fun name h => Path.isPlainName_of_isEntryName (hnames name h))
    (isPlainName_of_mem_searchedNames name hname), String.ofList_toList]

namespace IsRepositoryOf

theorem holds (h : IsRepositoryOf d top here) :
    d.holds ((Disk.pathOf top).child repositoryName) = true := by
  have htop := Disk.isDirectoryAt_above h.isDirectory h.above
  obtain ⟨entry, hentry⟩ := h.held
  have hname : isEntryName repositoryName.toList = true := by decide
  have hresolve := Disk.resolve_child_of_plain (Disk.resolve_pathOf (.inl htop)) htop hname hentry
    fun target hlink => h.noLink top List.suffix_rfl h.above repositoryName (by simp [searchedNames])
      target (hlink ▸ hentry)
  rw [String.ofList_toList] at hresolve
  exact Disk.holds_of_resolve hresolve hentry

/-- The search from a directory in a repository goes no further than the repository. -/
theorem mem_searched_tails (hholds : d.holds ((Disk.pathOf top).child repositoryName) = true)
    (habove : top <:+ here) (h : p ∈ searched d (here.tails.map Disk.pathOf)) :
    ∃ loc, ∃ name ∈ searchedNames, p = (Disk.pathOf loc).child name ∧ top <:+ loc ∧ loc <:+ here := by
  induction here with
  | nil =>
    obtain rfl := List.suffix_nil.1 habove
    obtain ⟨name, hname, hp⟩ | ⟨hrepository, -⟩ := mem_searched_cons h
    · exact ⟨[], name, hname, hp, List.suffix_rfl, List.suffix_rfl⟩
    · exact absurd hholds hrepository
  | cons step above ih =>
    rw [List.tails_cons, List.map_cons] at h
    obtain ⟨name, hname, hp⟩ | ⟨hrepository, hrest⟩ := mem_searched_cons h
    · exact ⟨_, name, hname, hp, habove, List.suffix_rfl⟩
    · -- the search goes on, so this was not the repository yet
      rcases List.suffix_cons_iff.1 habove with rfl | habove
      · exact absurd hholds hrepository
      · obtain ⟨loc, name, hname, hp, htop, hloc⟩ := ih habove hrest
        exact ⟨loc, name, hname, hp, htop, hloc.trans (List.suffix_cons step above)⟩

/-- Below a repository in which the two names are no links, nothing outside of it is looked at. -/
theorem staysBeside (h : IsRepositoryOf d top here) :
    StaysBeside d top (Disk.pathOf here).ancestors := by
  have hnames := List.all_eq_true.1 (Disk.all_isEntryName_of_isDirectoryAt h.isDirectory)
  rw [Path.ancestors_pathOf fun name hname => Path.isPlainName_of_isEntryName (hnames name hname)]
  intro p hp loc hloc
  obtain ⟨stage, name, hname, rfl, htop, hstage⟩ := mem_searched_tails h.holds h.above hp
  have hdirectory := Disk.isDirectoryAt_above h.isDirectory hstage
  have hstages := List.all_eq_true.1 (Disk.all_isEntryName_of_isDirectoryAt hdirectory)
  rw [child_pathOf_searched hdirectory hname] at hloc
  have hplain : ∀ piece ∈ name.toList :: stage, Path.IsPlainName piece :=
    List.forall_mem_cons.2 ⟨isPlainName_of_mem_searchedNames name hname,
      fun piece hpiece => Path.isPlainName_of_isEntryName (hstages piece hpiece)⟩
  have hlinks : ∀ way, way <:+ name.toList :: stage → ∀ target,
      d.lookup? way ≠ some (.link target) := by
    intro way hway target hlink
    rcases List.suffix_cons_iff.1 hway with rfl | hway
    · exact h.noLink stage htop hstage name hname target hlink
    · -- what is above a directory is no link
      have hway := of_decide_eq_true (Disk.isDirectoryAt_above hdirectory hway)
      rw [hway] at hlink
      cases hlink
  have hsuffix := Disk.suffix_of_mem_passes_pathOf hplain (List.cons_ne_nil _ _) hlinks hloc
  exact List.suffix_or_suffix_of_suffix (htop.trans (List.suffix_cons _ _)) hsuffix

end IsRepositoryOf

/-! ### The file of a run -/

theorem locate_some_eq_ok_iff {given : Path} :
    locate d (some given) project = .ok (some given) ↔ d.isFile given = true := by
  rw [locate]
  split <;> simp_all

/-- Without a path of its own a run takes the file of the nearest directory at or above the project that
has one, if no directory that is nearer holds a repository, and none otherwise; these directories name the
beginnings of what the project names.  Nothing outside of a directory matters if the searched paths stay
beside it, and so nothing outside of a repository matters if the two names are no links in it.  A path that
is given is taken if it is a file, whatever the search finds, and is a fault otherwise. -/
theorem nearest_configuration_is_taken (d : Disk) (project : Path) :
    (project.ancestors.map Path.components =
      (if project.isAbsolute then project.components.inits.tail
        else project.components.inits).reverse) ∧
    (∀ p, find? d project = some p ↔
      ∃ dir, IsNearest d project.ancestors dir ∧ p = dir.child fileName) ∧
    (find? d project = none ↔ ∀ dir, ¬ IsNearest d project.ancestors dir) ∧
    (∀ d' top, Disk.AgreesBelow top d d' → StaysBeside d top project.ancestors →
      find? d' project = find? d project) ∧
    (∀ d' top here, Disk.AgreesBelow top d d' → IsRepositoryOf d top here →
      find? d' (Disk.pathOf here) = find? d (Disk.pathOf here)) ∧
    locate d none project = .ok (find? d project) ∧
    ∀ given, (locate d (some given) project = .ok (some given) ↔ d.isFile given = true) ∧
      (d.isFile given = false →
        locate d (some given) project =
          .error (.config ⟨"config file not found: " ++ given.text, given⟩)) := by
  refine ⟨Path.map_components_ancestors project, fun p => findIn?_eq_some_iff, findIn?_eq_none_iff,
    fun d' top hagrees hstays => findIn?_of_staysBeside hagrees hstays,
    fun d' top here hagrees hrepository => findIn?_of_staysBeside hagrees hrepository.staysBeside, rfl,
    fun given => ⟨locate_some_eq_ok_iff, fun hgiven => ?_⟩⟩
  rw [locate, hgiven]
  rfl

/-- A file above the repository does not matter although the configuration file of the repository is a
link, which stays in the repository. -/
theorem nearest_configuration_of_linked_file :
    let repository : Location := ["repo".toList, "work".toList]
    let disk := ((Disk.empty.putDeep (".git".toList :: repository) .directory).putDeep
      ("codegate.toml".toList :: repository) (.link ⟨"conf/gate.toml"⟩)).putDeep
      ("gate.toml".toList :: "conf".toList :: repository) (.file [])
    let other := disk.put ["codegate.toml".toList, "work".toList] (.file [])
    let project : Path := ⟨"/work/repo/pkg"⟩
    Disk.AgreesBelow repository disk other ∧ StaysBeside disk repository project.ancestors ∧
      find? other project = some ⟨"/work/repo/codegate.toml"⟩ := by
  intro repository disk other project
  have hagrees : Disk.AgreesBelow repository disk other := by
    refine ⟨Disk.current_put (by decide) (by decide), by decide, fun loc hloc => ?_⟩
    apply Disk.lookup?_put_of_ne (by decide) (by decide)
    rintro rfl
    exact absurd hloc (by decide)
  have hstays : StaysBeside disk repository project.ancestors := by decide +kernel
  have hfound : find? disk project = some ⟨"/work/repo/codegate.toml"⟩ := by decide +kernel
  obtain ⟨-, -, -, hsame, -⟩ := nearest_configuration_is_taken disk project
  exact ⟨hagrees, hstays, (hsame other repository hagrees hstays).trans hfound⟩

/-- A file above the repository matters if the configuration file of the repository is a link to it: the
first directory that holds a repository is `/repo`, and the disks are the same there and below. -/
theorem find?_through_link :
    let repository : Location := ["repo".toList]
    let disk := (Disk.empty.putDeep (".git".toList :: repository) .directory).putDeep
      ("codegate.toml".toList :: repository) (.link ⟨"../shared.toml"⟩)
    let other := disk.put ["shared.toml".toList] (.file [])
    let project : Path := ⟨"/repo"⟩
    disk.LeadsToDirectory project repository ∧ disk.holds (project.child repositoryName) = true ∧
      Disk.AgreesBelow repository disk other ∧ find? disk project = none ∧
      find? other project = some ⟨"/repo/codegate.toml"⟩ := by
  intro repository disk other project
  refine ⟨⟨by decide +kernel, by decide⟩, by decide +kernel, ⟨Disk.current_put (by decide) (by decide),
    by decide, fun loc hloc => ?_⟩, by decide +kernel, by decide +kernel⟩
  apply Disk.lookup?_put_of_ne (by decide) (by decide)
  rintro rfl
  exact absurd hloc (by decide)

end QualityGate.Config
