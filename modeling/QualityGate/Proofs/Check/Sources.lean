/-
The sources of several directories.

Files that were seen already are left out of a list of paths one after the other.  The same comes out
when the list is taken in parts, and each part is compared with all that was returned before it
(`distinctAfter_append`, `append_distinctAfter_flatMap`).  A part with nothing new adds nothing.

So a directory that is listed a second time changes nothing, and on a disk without links neither does a
directory below one that is listed (`sources_merge_directories`).
-/
import QualityGate.Check.Context
import QualityGate.Proofs.Disk.LinkFree

namespace QualityGate

/-! ### Paths that name the same steps -/

namespace Path

theorem same_iff {p q : Path} : p.same q = true ↔ p.components = q.components :=
  decide_eq_true_iff

theorem same_self (p : Path) : p.same p = true :=
  same_iff.2 rfl

theorem same_comm (p q : Path) : p.same q = q.same p := by
  rw [Bool.eq_iff_iff, same_iff, same_iff]
  exact eq_comm

theorem same_trans {p q r : Path} (hpq : p.same q = true) (hqr : q.same r = true) :
    p.same r = true :=
  same_iff.2 ((same_iff.1 hpq).trans (same_iff.1 hqr))

theorem not_same_of_compare_lt {p q : Path} (h : p.compare q = .lt) : p.same q = false := by
  rw [← Bool.not_eq_true, same_iff, ← compare_eq_eq_iff, h]
  nofun

end Path

/-! ### Paths, each once -/

section Distinct

variable {seen seen' paths xs ys : List Path} {p q : Path}

theorem any_same_of_same (hpq : p.same q = true) (h : seen.any q.same = true) :
    seen.any p.same = true := by
  obtain ⟨r, hr, hqr⟩ := List.any_eq_true.1 h
  exact List.any_eq_true.2 ⟨r, hr, Path.same_trans hpq hqr⟩

/-- What is left out depends only on which steps have been seen. -/
theorem distinctAfter_congr (h : ∀ p : Path, seen.any p.same = seen'.any p.same) :
    distinctAfter seen paths = distinctAfter seen' paths := by
  induction paths generalizing seen seen' with
  | nil => rfl
  | cons path rest ih =>
    have hcons (p : Path) : (path :: seen).any p.same = (path :: seen').any p.same := by
      rw [List.any_cons, List.any_cons, h]
    rw [distinctAfter, distinctAfter, h, ih h, ih hcons]

theorem distinctAfter_sublist : (distinctAfter seen paths).Sublist paths := by
  induction paths generalizing seen with
  | nil => exact .slnil
  | cons path rest ih =>
    rw [distinctAfter]
    split
    · exact ih.cons path
    · exact ih.cons_cons path

/-- With what was seen before, the paths that are kept name the same steps as all of them. -/
theorem any_same_append_distinctAfter (seen paths : List Path) :
    (seen ++ distinctAfter seen paths).any p.same = (seen ++ paths).any p.same := by
  induction paths generalizing seen with
  | nil => rfl
  | cons path rest ih =>
    rw [distinctAfter]
    split
    · next hseen =>
      rw [ih, List.any_append, List.any_append, List.any_cons]
      by_cases hpath : p.same path = true
      · rw [any_same_of_same hpath hseen]
        rfl
      · rw [Bool.not_eq_true] at hpath
        rw [hpath, Bool.false_or]
    · have hrest := ih (path :: seen)
      simp only [List.any_append, List.any_cons] at hrest ⊢
      -- the path that is kept moves to those that have been seen
      rw [Bool.or_left_comm, ← Bool.or_assoc, hrest, Bool.or_assoc, Bool.or_left_comm]

/-- The second part of a list is compared with what is kept of the first. -/
theorem distinctAfter_append :
    distinctAfter seen (xs ++ ys) =
      distinctAfter seen xs ++ distinctAfter (seen ++ distinctAfter seen xs) ys := by
  induction xs generalizing seen with
  | nil => rw [List.nil_append, distinctAfter, List.append_nil, List.nil_append]
  | cons path rest ih =>
    rw [List.cons_append, distinctAfter, distinctAfter]
    split
    · exact ih
    · rw [ih, List.cons_append]
      congr 2
      -- what has been seen is the same, in another order
      apply distinctAfter_congr
      intro p
      simp only [List.any_append, List.any_cons]
      rw [Bool.or_left_comm]

/-- Nothing is kept of paths whose steps have all been seen. -/
theorem distinctAfter_eq_nil (h : ∀ p ∈ paths, seen.any p.same = true) :
    distinctAfter seen paths = [] := by
  induction paths with
  | nil => rfl
  | cons path rest ih =>
    obtain ⟨hpath, hrest⟩ := List.forall_mem_cons.1 h
    rw [distinctAfter, if_pos hpath, ih hrest]

/-- Of paths that name pairwise different steps those are left out that have been seen before. -/
theorem distinctAfter_of_pairwise (h : paths.Pairwise fun p q => p.same q = false) :
    distinctAfter seen paths = paths.filter fun p => !seen.any p.same := by
  induction paths generalizing seen with
  | nil => rfl
  | cons path rest ih =>
    obtain ⟨hpath, hrest⟩ := List.pairwise_cons.1 h
    rw [distinctAfter]
    split
    · next hseen =>
      rw [List.filter_cons_of_neg (by rw [hseen]; exact Bool.false_ne_true), ih hrest]
    · next hseen =>
      rw [Bool.not_eq_true] at hseen
      rw [List.filter_cons_of_pos (by rw [hseen]; rfl), ih hrest]
      congr 1
      -- the path in front is none of the others, so having seen it changes nothing
      apply List.filter_congr
      intro q hq
      rw [List.any_cons, Path.same_comm, hpath q hq, Bool.false_or]

/-- What is kept names pairwise different steps, none of which has been seen before. -/
theorem pairwise_distinctAfter :
    ((distinctAfter seen paths).Pairwise fun p q => p.same q = false) ∧
      ∀ p ∈ distinctAfter seen paths, seen.any p.same = false := by
  induction paths generalizing seen with
  | nil => exact ⟨.nil, by simp [distinctAfter]⟩
  | cons path rest ih =>
    rw [distinctAfter]
    split
    · exact ih
    · next hseen =>
      obtain ⟨hpairwise, hnew⟩ := @ih (path :: seen)
      simp only [List.any_cons, Bool.or_eq_false_iff] at hnew
      constructor
      · refine List.pairwise_cons.2 ⟨fun q hq => ?_, hpairwise⟩
        rw [Path.same_comm]
        exact (hnew q hq).1
      · refine List.forall_mem_cons.2 ⟨Bool.not_eq_true _ ▸ hseen, fun q hq => (hnew q hq).2⟩

end Distinct

/-! ### Sources -/

namespace Context

variable {ctx : Context} {dir : Path} {got : List Path} {p : Path}

/-- The source directories that are there. -/
def presentRoots (ctx : Context) : List Path :=
  ctx.roots.filter ctx.disk.isDirectory

/-- The Python files of a directory. -/
def filesBelow (ctx : Context) (dir : Path) : List Path :=
  (ctx.list isPythonFile dir).files

/-- The Python files of a directory that name other steps than all paths that were returned. -/
def newFiles (ctx : Context) (got : List Path) (dir : Path) : List Path :=
  (ctx.filesBelow dir).filter fun file => !got.any file.same

/-- One more source directory, after all others. -/
def appending (ctx : Context) (dir : Path) : Context :=
  { ctx with sourceDirs := ctx.sourceDirs ++ [dir] }

theorem pairwise_filesBelow (ctx : Context) (dir : Path) :
    (ctx.filesBelow dir).Pairwise fun p q => p.compare q = .lt :=
  Disk.pairwise_files_list ctx.disk ctx.config.paths.excludeDirs isPythonFile dir

theorem pairwise_newFiles (ctx : Context) (got : List Path) (dir : Path) :
    (ctx.newFiles got dir).Pairwise fun p q => p.compare q = .lt :=
  (ctx.pairwise_filesBelow dir).filter _

theorem value_sources (ctx : Context) :
    ctx.sources.value = distinctAfter [] (ctx.presentRoots.flatMap ctx.filesBelow) := by
  show distinctAfter [] (ctx.sourceListings.flatMap Listing.files) = _
  rw [sourceListings, List.flatMap_map]
  rfl

/-- The sources of a single directory are its files. -/
theorem sources_of_presentRoots (h : ctx.presentRoots = [dir]) :
    ctx.sources.value = ctx.filesBelow dir := by
  have hpairwise := (ctx.pairwise_filesBelow dir).imp Path.not_same_of_compare_lt
  rw [value_sources, h, List.flatMap_singleton, distinctAfter_of_pairwise hpairwise]
  exact List.filter_eq_self.2 fun _ _ => rfl

/-- Directory after directory, what is new in it is appended to what was returned. -/
theorem append_distinctAfter_flatMap (ctx : Context) (dirs got : List Path) :
    got ++ distinctAfter got (dirs.flatMap ctx.filesBelow) =
      dirs.foldl (fun got dir => got ++ ctx.newFiles got dir) got := by
  induction dirs generalizing got with
  | nil => exact List.append_nil got
  | cons dir rest ih =>
    have hdir : distinctAfter got (ctx.filesBelow dir) = ctx.newFiles got dir :=
      distinctAfter_of_pairwise ((ctx.pairwise_filesBelow dir).imp Path.not_same_of_compare_lt)
    rw [List.flatMap_cons, distinctAfter_append, hdir, List.foldl_cons, ← ih, List.append_assoc]

/-- The steps that sources name are those that the files of the directories name. -/
theorem any_same_sources :
    ctx.sources.value.any p.same = (ctx.presentRoots.flatMap ctx.filesBelow).any p.same := by
  rw [value_sources]
  exact any_same_append_distinctAfter [] _

/-- One more directory changes nothing if it is not there, or if all of its files are sources already. -/
theorem sources_appending (h : ctx.disk.isDirectory (ctx.project.join dir) = true →
    ∀ p ∈ ctx.filesBelow (ctx.project.join dir), ctx.sources.value.any p.same = true) :
    (ctx.appending dir).sources.value = ctx.sources.value := by
  have hroots : (ctx.appending dir).presentRoots =
      ctx.presentRoots ++ [ctx.project.join dir].filter ctx.disk.isDirectory := by
    show ((ctx.sourceDirs ++ [dir]).map ctx.project.join).filter ctx.disk.isDirectory = _
    rw [List.map_append, List.filter_append]
    rfl
  have hfiles : (ctx.appending dir).filesBelow = ctx.filesBelow := rfl
  rw [value_sources, hroots, hfiles]
  -- a directory that is not there is no root
  by_cases hdir : ctx.disk.isDirectory (ctx.project.join dir) = true
  · rw [List.filter_cons_of_pos hdir, List.filter_nil, List.flatMap_append, distinctAfter_append,
      ← value_sources, List.nil_append, List.flatMap_singleton, distinctAfter_eq_nil (h hdir),
      List.append_nil]
  · rw [List.filter_cons_of_neg hdir, List.filter_nil, List.append_nil, ← value_sources]

/-- The files of a listed directory that is there are sources. -/
theorem any_same_of_mem_filesBelow (hlisted : dir ∈ ctx.sourceDirs)
    (hdir : ctx.disk.isDirectory (ctx.project.join dir) = true)
    (hp : p ∈ ctx.filesBelow (ctx.project.join dir)) : ctx.sources.value.any p.same = true := by
  have hroot : ctx.project.join dir ∈ ctx.presentRoots :=
    List.mem_filter.2 ⟨List.mem_map_of_mem hlisted, hdir⟩
  rw [any_same_sources]
  exact List.any_eq_true.2 ⟨p, List.mem_flatMap.2 ⟨_, hroot, hp⟩, p.same_self⟩

/-- The sources are put together directory by directory, in the order in which those that are there are
listed; of each directory come, in the order of their paths, the Python files that name other steps than
all before.  So no two sources name the same steps, and the steps that they name are those that the files
of the directories name.  A directory that is listed once more changes nothing, and on a disk without
links neither does a directory below a listed one, if no name on the way is excluded. -/
theorem sources_merge_directories (ctx : Context) :
    ctx.sources.value = ctx.presentRoots.foldl (fun got dir => got ++ ctx.newFiles got dir) [] ∧
    (∀ got dir, (ctx.newFiles got dir).Pairwise fun p q => p.compare q = .lt) ∧
    (ctx.sources.value.Pairwise fun p q => p.same q = false) ∧
    (∀ p : Path, (∃ q ∈ ctx.sources.value, p.same q = true) ↔
      ∃ dir ∈ ctx.presentRoots, ∃ q ∈ ctx.filesBelow dir, p.same q = true) ∧
    (∀ dir ∈ ctx.sourceDirs, (ctx.appending dir).sources.value = ctx.sources.value) ∧
    (ctx.disk.IsLinkFree →
      ∀ dir ∈ ctx.sourceDirs, ctx.disk.isDirectory (ctx.project.join dir) = true →
        ∀ names, (∀ name ∈ names, Path.IsPlainName name ∧
            String.ofList name ∉ ctx.config.paths.excludeDirs) →
          (ctx.appending (dir.below names)).sources.value = ctx.sources.value) := by
  refine ⟨?_, ctx.pairwise_newFiles, ?_, ?_, ?_, ?_⟩
  · rw [value_sources]
    exact ctx.append_distinctAfter_flatMap ctx.presentRoots []
  · rw [value_sources]
    exact pairwise_distinctAfter.1
  · intro p
    rw [← List.any_eq_true, any_same_sources, List.any_flatMap]
    simp only [List.any_eq_true]
  · intro dir hlisted
    apply sources_appending
    intro hdir p hp
    exact any_same_of_mem_filesBelow hlisted hdir hp
  · intro hfree dir hlisted hdir names hnames
    apply sources_appending
    rw [Path.join_below]
    intro hbelow p hp
    -- a directory below a root that is not excluded is walked with the root
    obtain ⟨loc, hloc, -⟩ := Disk.isDirectory_iff.1 hdir
    have hne := (Disk.resolve_find_eq_ok hloc).1
    exact any_same_of_mem_filesBelow hlisted hdir
      (Disk.mem_files_of_below hfree hne hnames hbelow hp)

/-- A package inside the listed directory is listed, too. -/
theorem sources_of_inner_package :
    let d := (Disk.empty.putDeep ["a.py".toList, "src".toList, "p".toList] (.file [])).putDeep
      ["b.py".toList, "in".toList, "src".toList, "p".toList] (.file [])
    let ctx : Context := ⟨⟨"/p"⟩, [⟨"src"⟩], .standard, d⟩
    (ctx.disk.IsLinkFree ∧ ctx.disk.isDirectory ⟨"/p/src/in"⟩ = true) ∧
      (ctx.appending ⟨"src/in"⟩).sources.value = ctx.sources.value := by
  intro d ctx
  have hfree : ctx.disk.IsLinkFree := by decide +kernel
  have hinner : ctx.disk.isDirectory ⟨"/p/src/in"⟩ = true := by decide +kernel
  have hlisted : (⟨"src"⟩ : Path) ∈ ctx.sourceDirs := List.mem_singleton_self _
  have hdir : ctx.disk.isDirectory (ctx.project.join ⟨"src"⟩) = true := by decide +kernel
  have hnames : ∀ name ∈ ["in".toList], Path.IsPlainName name ∧
      String.ofList name ∉ ctx.config.paths.excludeDirs := by decide +kernel
  have hbelow : Path.below ⟨"src"⟩ ["in".toList] = ⟨"src/in"⟩ := by decide +kernel
  obtain ⟨-, -, -, -, -, hbelowListed⟩ := sources_merge_directories ctx
  refine ⟨⟨hfree, hinner⟩, ?_⟩
  rw [← hbelow]
  exact hbelowListed hfree ⟨"src"⟩ hlisted hdir ["in".toList] hnames

end Context

end QualityGate
