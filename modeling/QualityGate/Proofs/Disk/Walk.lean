/-
What a walk finds.

At an entry a walk does what the entry's path leads to (`step_meets`): a file is met, a directory is
entered unless a link leads to one that the walk is in, and nothing else leads anywhere.  From this step
lemma it follows, by induction along the walk, that the files it meets are those that can be reached
(`file_mem_walkFrom`), and that their paths name pairwise different steps (`pairwise_walkFrom`).

The list that a walk gives is therefore complete, sound and strictly increasing
(`list_files_eq_reachable`).
-/
import QualityGate.Disk.Walk
import QualityGate.Proofs.Disk.Reach
import QualityGate.Proofs.Path.Order

namespace QualityGate.Disk

variable {d : Disk} {exclude : List String} {here : Station} {above : List Station}
variable {name : List Char}

/-! ### One entry -/

/-- The directories that a walk is in. -/
def locations (trail : List Station) : List Location :=
  trail.map Station.location

theorem locations_cons (here : Station) (above : List Station) :
    locations (here :: above) = here.location :: locations above := rfl

/-- What an entry is for a walk agrees with what its path leads to. -/
def StepMeets (d : Disk) (trail : List Station) (dir : Path) (name : List Char) : Step → Prop
  | .file => d.isFile (dir.child (String.ofList name)) = true
  | .enter target =>
    d.LeadsToDirectory (dir.child (String.ofList name)) target ∧
      (d.HoldsLink dir name → target ∉ locations trail)
  | .loop _ =>
    d.HoldsLink dir name ∧
      ∃ target ∈ locations trail, d.LeadsToDirectory (dir.child (String.ofList name)) target
  | .fault cause => d.resolve .find (dir.child (String.ofList name)) = .error cause

/-- What leads somewhere and to no directory leads to a file. -/
theorem isFile_of_settledAt {p : Path} {loc : Location} (h : d.resolve .find p = .ok loc)
    (hdir : d.isDirectoryAt loc = false) : d.isFile p = true := by
  rcases resolve_find_settled h with hdir' | hfile
  · rw [hdir] at hdir'
    cases hdir'
  · exact isFile_iff.2 ⟨loc, h, hfile⟩

theorem find?_location_eq_none_iff {trail : List Station} {loc : Location} :
    (trail.find? fun s => s.location = loc) = none ↔ loc ∉ locations trail := by
  simp [locations, List.find?_eq_none]

/-- A station that is found is one that the walk is in. -/
theorem mem_locations_of_find? {trail : List Station} {loc : Location} {s : Station}
    (h : (trail.find? fun s => s.location = loc) = some s) : loc ∈ locations trail := by
  have hloc := List.find?_some h
  rw [decide_eq_true_eq] at hloc
  exact List.mem_map.2 ⟨s, List.mem_of_find?_eq_some h, hloc⟩

/-- What a walk does at an entry of the directory that it is in. -/
theorem step_meets (trail : List Station) (hhere : d.LeadsToDirectory here.path here.location)
    (hname : name ∈ d.names here.location) :
    d.StepMeets trail here.path name
      (d.step trail (here.path.child (String.ofList name)) (name :: here.location)) := by
  have hentry := isEntryName_of_mem_names hname
  obtain ⟨entry, hlookup⟩ := mem_names.1 hname
  have hplain (hplain : ∀ target, entry ≠ .link target) :=
    resolve_child_of_plain hhere.1 hhere.2 hentry hlookup hplain
  -- the entry decides; only a link leads elsewhere than to itself
  rw [step, hlookup]
  cases entry with
  | file | unreadable => exact isFile_iff.2 ⟨_, hplain nofun, isFileAt_iff.2 ⟨_, hlookup, rfl⟩⟩
  | directory =>
    refine ⟨⟨hplain nofun, decide_eq_true hlookup⟩, ?_⟩
    -- the name is that of a directory and not of a link
    rintro ⟨loc, target, hloc, hlink⟩
    obtain rfl := Except.ok.inj (hhere.1.symm.trans hloc)
    rw [hlookup] at hlink
    cases hlink
  | link target =>
    have hlink : d.HoldsLink here.path name := ⟨_, target, hhere.1, hlookup⟩
    rcases hresolve : d.resolve .find (here.path.child (String.ofList name)) with cause | loc
    · exact hresolve
    · by_cases hdir : d.isDirectoryAt loc = true
      · simp only [hdir, if_true]
        split
        · next s hfind => exact ⟨hlink, loc, mem_locations_of_find? hfind, hresolve, hdir⟩
        · next hfind => exact ⟨⟨hresolve, hdir⟩, fun _ => find?_location_eq_none_iff.1 hfind⟩
      · simp only [hdir]
        exact isFile_of_settledAt hresolve (Bool.not_eq_true _ ▸ hdir)

/-! ### All entries of a directory -/

/-- What a walk meets at one entry of the directory that it is in, and below. -/
def walkEntry (d : Disk) (skip : List Char → Bool) (here : Station) (above : List Station)
    (name : List Char) : List Encounter :=
  let path := here.path.child (String.ofList name)
  match d.step (here :: above) path (name :: here.location) with
  | .file => [.file path]
  | .enter target => if skip name then [] else d.walkFrom skip ⟨path, target⟩ (here :: above)
  | .loop above => [.loop path above]
  | .fault cause => [.fault path cause]

/-- A walk meets in a directory what it meets at each of its names, one after another. -/
theorem walkFrom_eq_flatMap (d : Disk) (skip : List Char → Bool) (here : Station)
    (above : List Station) :
    d.walkFrom skip here above = (d.names here.location).flatMap (d.walkEntry skip here above) := by
  rw [walkFrom]
  congr 1
  funext name
  dsimp only [walkEntry]
  split <;> split <;> simp_all

/-! ### The files that are met -/

theorem excludes_iff : excludes exclude name = true ↔ String.ofList name ∈ exclude := by
  rw [excludes, List.contains_iff_mem]

/-- The files met at one entry, if those met below a directory that it enters are known. -/
theorem file_mem_walkEntry_of_below (hhere : d.LeadsToDirectory here.path here.location)
    (hname : name ∈ d.names here.location) (p : Path)
    (hbelow : ∀ target, d.step (here :: above) (here.path.child (String.ofList name))
        (name :: here.location) = .enter target →
      (.file p ∈ d.walkFrom (excludes exclude) ⟨here.path.child (String.ofList name), target⟩
          (here :: above) ↔
        ∃ names, names ≠ [] ∧ p = (here.path.child (String.ofList name)).below names ∧
          d.ReachesPast exclude (locations (here :: above)) (here.path.child (String.ofList name))
            names)) :
    .file p ∈ d.walkEntry (excludes exclude) here above name ↔
      ∃ rest, p = here.path.below (name :: rest) ∧
        d.ReachesPast exclude (locations above) here.path (name :: rest) := by
  have hentry := isEntryName_of_mem_names hname
  have hmeets := step_meets (here :: above) hhere hname
  dsimp only [walkEntry]
  rcases hstep : d.step (here :: above) (here.path.child (String.ofList name))
    (name :: here.location) with - | target | loop | cause
  · -- a file
    rw [hstep] at hmeets
    have hfile : d.isFile (here.path.child (String.ofList name)) = true := hmeets
    rw [exists_reachesPast_of_isFile hhere hentry hfile, List.mem_singleton, Encounter.file.injEq]
  · -- a directory that the walk is not in
    rw [hstep] at hmeets
    obtain ⟨htarget, hfresh⟩ := hmeets
    rw [locations_cons] at hfresh
    by_cases hskip : excludes exclude name = true
    · simp only [hskip, if_true, List.not_mem_nil, false_iff]
      rintro ⟨rest, -, hreach⟩
      exact not_reachesPast_of_excluded hhere htarget (excludes_iff.1 hskip) hreach
    · have hincluded := mt excludes_iff.2 hskip
      rw [exists_reachesPast_of_directory hhere hentry hincluded htarget hfresh]
      simp only [hskip]
      exact hbelow target hstep
  · -- a link to a directory that the walk is in
    rw [hstep] at hmeets
    obtain ⟨hlink, target, hseen, htarget⟩ := hmeets
    rw [locations_cons] at hseen
    simp only [List.mem_singleton, reduceCtorEq, false_iff]
    rintro ⟨rest, -, hreach⟩
    exact not_reachesPast_of_loop hhere hlink htarget hseen hreach
  · -- nothing is there
    rw [hstep] at hmeets
    simp only [List.mem_singleton, reduceCtorEq, false_iff]
    rintro ⟨rest, -, hreach⟩
    exact not_reachesPast_of_child_error hhere hmeets hreach

/-- A walk meets exactly the files that can be reached below the directory that it is in. -/
theorem file_mem_walkFrom (p : Path) (hhere : d.LeadsToDirectory here.path here.location) :
    .file p ∈ d.walkFrom (excludes exclude) here above ↔
      ∃ names, names ≠ [] ∧ p = here.path.below names ∧
        d.ReachesPast exclude (locations above) here.path names := by
  induction here, above using walkFrom.induct d with
  | case1 here above ih =>
    -- the walk below an entry starts from what the entry leads to
    have hentry : ∀ name ∈ d.names here.location,
        (.file p ∈ d.walkEntry (excludes exclude) here above name ↔
          ∃ rest, p = here.path.below (name :: rest) ∧
            d.ReachesPast exclude (locations above) here.path (name :: rest)) := by
      intro name hname
      apply file_mem_walkEntry_of_below hhere hname p
      intro target hstep
      have hmeets := step_meets (here :: above) hhere hname
      rw [hstep] at hmeets
      exact ih name target hstep hmeets.1
    rw [walkFrom_eq_flatMap, List.mem_flatMap]
    constructor
    · rintro ⟨name, hname, hmem⟩
      obtain ⟨rest, hp, hrest⟩ := (hentry name hname).1 hmem
      exact ⟨name :: rest, List.cons_ne_nil name rest, hp, hrest⟩
    · rintro ⟨names, hne, hp, hreach⟩
      obtain ⟨name, rest, rfl⟩ := List.exists_cons_of_ne_nil hne
      have hname := hreach.head_mem_names hhere
      exact ⟨name, hname, (hentry name hname).2 ⟨rest, hp, hreach⟩⟩

/-- A walk meets at an entry exactly the files that can be reached over it. -/
theorem file_mem_walkEntry (hhere : d.LeadsToDirectory here.path here.location)
    (hname : name ∈ d.names here.location) (p : Path) :
    .file p ∈ d.walkEntry (excludes exclude) here above name ↔
      ∃ rest, p = here.path.below (name :: rest) ∧
        d.ReachesPast exclude (locations above) here.path (name :: rest) := by
  apply file_mem_walkEntry_of_below hhere hname p
  intro target hstep
  have hmeets := step_meets (here :: above) hhere hname
  rw [hstep] at hmeets
  exact file_mem_walkFrom p hmeets.1

/-! ### The order of the files -/

theorem mem_filterMap_file? {met : List Encounter} {p : Path} :
    p ∈ met.filterMap Encounter.file? ↔ .file p ∈ met := by
  rw [List.mem_filterMap]
  constructor
  · rintro ⟨encounter, hmem, hfile⟩
    cases encounter with
    | file path => exact Option.some.inj hfile ▸ hmem
    | loop path above => cases hfile
    | fault path cause => cases hfile
  · exact fun hmem => ⟨_, hmem, rfl⟩

/-- No two files that a walk meets are reached over the same steps. -/
theorem pairwise_walkFrom (hhere : d.LeadsToDirectory here.path here.location) :
    ((d.walkFrom (excludes exclude) here above).filterMap Encounter.file?).Pairwise
      fun p q => p.components ≠ q.components := by
  induction here, above using walkFrom.induct d with
  | case1 here above ih =>
    rw [walkFrom_eq_flatMap, List.filterMap_flatMap, List.pairwise_flatMap]
    constructor
    · intro name hname
      have hmeets := step_meets (here :: above) hhere hname
      dsimp only [walkEntry]
      rcases hstep : d.step (here :: above) (here.path.child (String.ofList name))
        (name :: here.location) with - | target | loop | cause
      · exact List.pairwise_singleton _ _
      · rw [hstep] at hmeets
        by_cases hskip : excludes exclude name = true
        · simp only [hskip, if_true]
          exact List.Pairwise.nil
        · simp only [hskip]
          exact ih name target hstep hmeets.1
      · exact List.Pairwise.nil
      · exact List.Pairwise.nil
    · -- below different entries the step after the directory is a different one
      apply (d.nodup_names here.location).imp_of_mem
      intro name name' hname hname' hne p hp q hq
      obtain ⟨rest, rfl, hreach⟩ := (file_mem_walkEntry hhere hname p).1 (mem_filterMap_file?.1 hp)
      obtain ⟨rest', rfl, hreach'⟩ := (file_mem_walkEntry hhere hname' q).1 (mem_filterMap_file?.1 hq)
      rw [Path.components_below here.path hreach.named, Path.components_below here.path hreach'.named]
      simpa using fun heq => absurd heq hne

/-! ### A walk from a path -/

theorem walk_of_error {root : Path} {cause : IoError} (h : d.resolve .find root = .error cause)
    (skip : List Char → Bool) : d.walk skip root = [.fault root cause] := by
  rw [walk, h]

theorem walk_of_directory {root : Path} {loc : Location} (h : d.LeadsToDirectory root loc)
    (skip : List Char → Bool) : d.walk skip root = d.walkFrom skip ⟨root, loc⟩ [] := by
  simp only [walk, h.1, h.2, if_true]

theorem walk_of_file {root : Path} {loc : Location} (h : d.resolve .find root = .ok loc)
    (hdir : d.isDirectoryAt loc = false) (skip : List Char → Bool) :
    d.walk skip root = [.file root] := by
  simp only [walk, h, hdir, Bool.false_eq_true, if_false]

/-- A walk meets exactly the files that can be reached from the path that it starts on. -/
theorem file_mem_walk (root p : Path) :
    .file p ∈ d.walk (excludes exclude) root ↔
      ∃ names, p = root.below names ∧ d.Reaches exclude root names := by
  simp only [← reachesPast_empty]
  -- the path leads nowhere, to a file, or to a directory that is walked
  rcases hroot : d.resolve .find root with cause | loc
  · rw [walk_of_error hroot, List.mem_singleton]
    simp only [reduceCtorEq, false_iff]
    rintro ⟨names, -, hreach⟩
    exact not_reachesPast_of_error hroot hreach
  · rcases hdir : d.isDirectoryAt loc
    · have hfile := isFile_of_settledAt hroot hdir
      rw [walk_of_file hroot hdir, List.mem_singleton, Encounter.file.injEq]
      constructor
      · rintro rfl
        exact ⟨[], rfl, reachesPast_nil.2 hfile⟩
      · rintro ⟨names, rfl, hreach⟩
        rw [hreach.eq_nil_of_isFile hfile]
        rfl
    · have hleads : d.LeadsToDirectory (Station.mk root loc).path (Station.mk root loc).location :=
        ⟨hroot, hdir⟩
      rw [walk_of_directory hleads, file_mem_walkFrom p hleads]
      constructor
      · rintro ⟨names, -, hp, hreach⟩
        exact ⟨names, hp, hreach⟩
      · rintro ⟨names, hp, hreach⟩
        exact ⟨names, hreach.ne_nil_of_leadsTo hleads, hp, hreach⟩

/-- No two files that a walk meets name the same steps. -/
theorem pairwise_walk (d : Disk) (exclude : List String) (root : Path) :
    ((d.walk (excludes exclude) root).filterMap Encounter.file?).Pairwise
      fun p q => p.components ≠ q.components := by
  rcases hroot : d.resolve .find root with cause | loc
  · rw [walk_of_error hroot]
    exact List.Pairwise.nil
  · rcases hdir : d.isDirectoryAt loc
    · rw [walk_of_file hroot hdir]
      exact List.pairwise_singleton _ _
    · have hleads : d.LeadsToDirectory (Station.mk root loc).path (Station.mk root loc).location :=
        ⟨hroot, hdir⟩
      rw [walk_of_directory hleads]
      exact pairwise_walkFrom hleads

/-! ### The files listed -/

/-- The number of accepted files that are met is that of the files listed. -/
theorem found_eq_length (d : Disk) (exclude : List String) (accept : Path → Bool) (root : Path) :
    (d.list exclude accept root).found = (d.list exclude accept root).files.length := by
  show (d.walk _ root).countP _ = (Path.sort _).length
  rw [(Path.sort_perm _).length_eq, ← List.countP_eq_length_filter, List.countP_filterMap]
  congr 1
  funext encounter
  cases encounter <;> rfl

/-- The files listed are the accepted ones that can be reached. -/
theorem mem_files_list {accept : Path → Bool} {root p : Path} :
    p ∈ (d.list exclude accept root).files ↔
      (∃ names, p = root.below names ∧ d.Reaches exclude root names) ∧ accept p = true := by
  show p ∈ Path.sort _ ↔ _
  rw [Path.mem_sort, List.mem_filter, mem_filterMap_file?, file_mem_walk]

/-- A file that is accepted is listed for the directory in which it is. -/
theorem mem_files_list_of_child {accept : Path → Bool} {root : Path} (name : List Char)
    (hroot : d.isDirectory root = true) (hname : isEntryName name = true)
    (hfile : d.isFile (root.child (String.ofList name)) = true)
    (haccept : accept (root.child (String.ofList name)) = true) :
    root.child (String.ofList name) ∈ (d.list exclude accept root).files := by
  obtain ⟨loc, hloc⟩ := isDirectory_iff_leadsTo.1 hroot
  -- the name is no directory, so it is neither excluded nor entered by a link
  have hnot (target : Location) : ¬ d.LeadsToDirectory (root.child (String.ofList name)) target := by
    intro htarget
    rw [not_isFile_of_leadsTo htarget] at hfile
    cases hfile
  have hreach : d.ReachesPast exclude [] root [name] := by
    rw [reachesPast_cons hloc]
    refine ⟨hname, fun hdir => ?_, fun _ target htarget => absurd htarget (hnot target),
      reachesPast_nil.2 hfile⟩
    obtain ⟨target, htarget⟩ := isDirectory_iff_leadsTo.1 hdir
    exact absurd htarget (hnot target)
  exact mem_files_list.2 ⟨⟨[name], rfl, reachesPast_empty.1 hreach⟩, haccept⟩

theorem step_of_isFileAt {trail : List Station} {path : Path} {loc : Location}
    (h : d.isFileAt loc = true) : d.step trail path loc = .file := by
  obtain ⟨entry, hentry, hfile⟩ := isFileAt_iff.1 h
  rw [step, hentry]
  cases entry with
  | file | unreadable => rfl
  | directory | link => cases hfile

/-- Of a directory that holds nothing but files, these are listed. -/
theorem files_list_of_files {accept : Path → Bool} {root : Path} {loc : Location}
    (hroot : d.LeadsToDirectory root loc)
    (hfiles : ∀ name ∈ d.names loc, d.isFileAt (name :: loc) = true) :
    (d.list exclude accept root).files =
      Path.sort (((d.names loc).map fun name => root.child (String.ofList name)).filter accept) := by
  have hentry : ∀ name ∈ d.names loc, d.walkEntry (excludes exclude) ⟨root, loc⟩ [] name =
      [.file (root.child (String.ofList name))] := by
    intro name hname
    rw [walkEntry, step_of_isFileAt (hfiles name hname)]
  show Path.sort (((d.walk _ root).filterMap Encounter.file?).filter accept) = _
  rw [walk_of_directory hroot, walkFrom_eq_flatMap, List.flatMap_congr hentry, ← List.map_eq_flatMap,
    List.filterMap_map, ← List.filterMap_eq_map]
  rfl

/-- They stand in the strict order of their paths. -/
theorem pairwise_files_list (d : Disk) (exclude : List String) (accept : Path → Bool) (root : Path) :
    (d.list exclude accept root).files.Pairwise fun p q => p.compare q = .lt :=
  Path.pairwise_lt_sort ((pairwise_walk d exclude root).filter _)

/-- The files that are listed are those that can be reached from the root and are accepted, in the
strict order of their paths, and the number that is kept is theirs. -/
theorem list_files_eq_reachable (d : Disk) (exclude : List String) (accept : Path → Bool)
    (root : Path) :
    (∀ p, p ∈ (d.list exclude accept root).files ↔
      (∃ names, p = root.below names ∧ d.Reaches exclude root names) ∧ accept p = true) ∧
    ((d.list exclude accept root).files.Pairwise fun p q => p.compare q = .lt) ∧
    (d.list exclude accept root).found = (d.list exclude accept root).files.length := by
  refine ⟨fun p => mem_files_list, ?_, found_eq_length d exclude accept root⟩
  exact pairwise_files_list d exclude accept root

end QualityGate.Disk
