/-
Sources are analysed apart.

What an analyzer finds in a source is shown under the path of that source (`path_of_mem_analyse`) and is
decided by what can be read on it (`analyse_onDisk`).  Which sources there are does not depend on what is
in them (`sources_onDisk`).  So on two disks that differ in one file the same is found, in the same order,
except for the findings whose path leads to that file (`findings_elsewhere_unaffected`).
-/
import QualityGate.Proofs.Check.Analyzer
import QualityGate.Proofs.Check.Sources
import QualityGate.Proofs.Disk.Agreement
import QualityGate.Proofs.Disk.Spelling

namespace QualityGate

open Disk

/-! ### Sources -/

namespace Context

variable {ctx : Context} {p : Path} {loc : Location} {d : Disk}

/-- What a check is given, on another disk. -/
def onDisk (ctx : Context) (d : Disk) : Context :=
  { ctx with disk := d }

/-- The path of the finding, taken from the project and spelled plainly, leads to the location.  The plain
spelling matters where a path is shown as nothing, for it is the project itself then. -/
def leadsTo (ctx : Context) (loc : Location) (f : Finding) : Bool :=
  ctx.disk.resolve .find (ctx.project.join f.path).plain = .ok loc

/-- A source is a file below a source directory. -/
theorem exists_below_of_mem_sources (h : p ∈ ctx.sources.value) :
    ∃ root ∈ ctx.roots, ∃ names, names ≠ [] ∧ p = root.below names ∧
      ∀ name ∈ names, isEntryName name = true := by
  rw [value_sources] at h
  obtain ⟨root, hroot, hp⟩ := List.mem_flatMap.1 (distinctAfter_sublist.mem h)
  obtain ⟨hroot, hdir⟩ := List.mem_filter.1 hroot
  obtain ⟨⟨names, rfl, hreach⟩, -⟩ := mem_files_list.1 hp
  obtain ⟨here, hhere⟩ := isDirectory_iff_leadsTo.1 hdir
  have hne := (reachesPast_empty.2 hreach).ne_nil_of_leadsTo hhere
  exact ⟨root, hroot, names, hne, rfl, hreach.named⟩

theorem isAbsolute_of_mem_sources (hproject : ctx.project.isAbsolute = true)
    (h : p ∈ ctx.sources.value) : p.isAbsolute = true := by
  obtain ⟨root, hroot, names, -, rfl, hnamed⟩ := exists_below_of_mem_sources h
  obtain ⟨dir, -, rfl⟩ := List.mem_map.1 hroot
  exact Path.isAbsolute_below (Path.isAbsolute_join_of_isAbsolute hproject dir) hnamed

/-- The path under which a path is shown names the same steps, taken from the project. -/
theorem components_join_shown (hproject : ctx.project.isAbsolute = true)
    (hp : p.isAbsolute = true) : (ctx.project.join (ctx.shown p)).components = p.components := by
  rw [shown]
  rcases hrest : p.relativeTo? ctx.project with - | rest
  · rw [Option.getD_none, Path.join, if_pos hp]
  · exact Path.components_join_relativeTo? hproject hp hrest

/-- A finding that is shown under the path of a source leads where that path leads. -/
theorem leadsTo_shown (hproject : ctx.project.isAbsolute = true) (h : p ∈ ctx.sources.value)
    {f : Finding} (hf : f.path = ctx.shown p) :
    ctx.leadsTo loc f = true ↔ ctx.disk.resolve .find p = .ok loc := by
  have habsolute := isAbsolute_of_mem_sources hproject h
  obtain ⟨root, -, names, hne, hp, hnamed⟩ := exists_below_of_mem_sources h
  have hname : EndsInName p.pieces := hp ▸ endsInName_below root hne hnamed
  have hplain : (ctx.project.join f.path).plain = p.plain := by
    rw [hf]
    exact Path.plain_congr (components_join_shown hproject habsolute)
  rw [leadsTo, decide_eq_true_eq, hplain, resolve_plain habsolute hname]

/-- Which sources there are, and their order, does not depend on what is in a file. -/
theorem sources_onDisk (h : DiffersAt loc ctx.disk d) :
    (ctx.onDisk d).sources.value = ctx.sources.value := by
  -- the same directories are there, and of their listings only the files are asked for
  have hroots : (ctx.onDisk d).presentRoots = ctx.presentRoots := by
    show ctx.roots.filter d.isDirectory = ctx.roots.filter ctx.disk.isDirectory
    congr 1
    funext root
    exact h.isDirectory_eq root
  have hfiles : (ctx.onDisk d).filesBelow = ctx.filesBelow := by
    funext root
    exact h.files_list _ _ root
  rw [value_sources, value_sources, hroots, hfiles]

end Context

/-! ### What is found in a source -/

namespace Check

variable {ctx : Context} {p : Path} {f : Finding}

theorem path_of_misnamed? {shown : Path} {line : Option Nat} {role : Naming.Role} {name : String}
    (h : misnamed? shown line role name = some f) : f.path = shown := by
  obtain ⟨message, -, rfl⟩ := Option.map_eq_some_iff.1 h
  rfl

theorem path_of_mem_misnamedInText {shown : Path} {text : List Char}
    (h : f ∈ misnamedInText shown text) : f.path = shown := by
  rw [misnamedInText] at h
  split at h
  all_goals
    obtain ⟨use, -, huse⟩ := List.mem_filterMap.1 h
    exact path_of_misnamed? huse

theorem path_of_mem_misnamed (h : f ∈ misnamed ctx p) : f.path = ctx.shown p := by
  rcases List.mem_append.1 h with h | h
  · exact path_of_misnamed? (Option.mem_toList.1 h)
  · split at h
    · exact path_of_mem_misnamedInText h
    · rw [List.mem_singleton.1 h]
      rfl

theorem path_of_mem_longFile {limit : Nat} (h : f ∈ longFile limit ctx p) : f.path = ctx.shown p := by
  rw [longFile] at h
  split at h
  · rw [List.mem_singleton.1 h]
    rfl
  · dsimp only at h
    split at h
    · rw [List.mem_singleton.1 h]
      rfl
    · cases h

theorem path_of_readModule (h : ctx.readModule p = .error f) : f.path = ctx.shown p := by
  rw [Context.readModule] at h
  split at h
  · rw [← Except.error.inj h]
    rfl
  · dsimp only at h
    split at h
    · cases h
    · rw [← Except.error.inj h]
      rfl

/-- What is found in a module is shown under its path, if the analysis does so. -/
theorem path_of_mem_inModule {analyse : Path → Python.Tree → List Finding}
    (hanalyse : ∀ shown tree, ∀ f ∈ analyse shown tree, f.path = shown)
    (h : f ∈ inModule analyse ctx p) : f.path = ctx.shown p := by
  rw [inModule] at h
  rcases hmodule : ctx.readModule p with finding | tree
  · rw [hmodule] at h
    rw [List.mem_singleton.1 h]
    exact path_of_readModule hmodule
  · rw [hmodule] at h
    exact hanalyse _ tree f h

end Check

namespace Analyzer

variable {ctx : Context} {p : Path} {loc : Location} {d : Disk}

/-- What is found in a source is shown under its path. -/
theorem path_of_mem_analyse (a : Analyzer) {f : Finding} (h : f ∈ a.analyse ctx p) :
    f.path = ctx.shown p := by
  cases a with
  | naming => exact Check.path_of_mem_misnamed h
  | fileLength limit => exact Check.path_of_mem_longFile h
  | functionLength limit =>
    have hmodule (shown : Path) (tree : Python.Tree) :
        ∀ f ∈ tree.visit.filterMap (Check.longFunction? limit shown), f.path = shown :=
      fun _ hf => (Check.of_mem_longFunctions hf).1
    exact Check.path_of_mem_inModule hmodule h
  | docstring scope =>
    have hmodule (h : f ∈ Check.inModule (Check.undocumented scope) ctx p) : f.path = ctx.shown p :=
      Check.path_of_mem_inModule (fun _ _ _ hf => (Check.of_mem_undocumented hf).1) h
    rw [analyse, Check.undocumentedIn] at h
    -- a test file may be left out, and then nothing is found
    split at h
    · cases h
    · exact hmodule h

/-- What is found in a source is decided by what can be read on its path. -/
theorem analyse_onDisk (a : Analyzer) (h : d.read p = ctx.disk.read p) :
    a.analyse (ctx.onDisk d) p = a.analyse ctx p := by
  -- an analysis takes the bytes, the text or the tree of its source, and nothing else of the disk
  have htext : (ctx.onDisk d).disk.readText p = ctx.disk.readText p := by
    show d.readText p = _
    rw [readText, readText, h]
  have hmodule : (ctx.onDisk d).readModule p = ctx.readModule p := by
    rw [Context.readModule, Context.readModule, htext]
    rfl
  have hinModule (analyse : Path → Python.Tree → List Finding) :
      Check.inModule analyse (ctx.onDisk d) p = Check.inModule analyse ctx p := by
    rw [Check.inModule, Check.inModule, hmodule]
    rfl
  cases a with
  | naming =>
    show Check.misnamed (ctx.onDisk d) p = Check.misnamed ctx p
    rw [Check.misnamed, Check.misnamed, htext]
    rfl
  | fileLength limit =>
    show Check.longFile limit (ctx.onDisk d) p = Check.longFile limit ctx p
    rw [Check.longFile, Check.longFile, show (ctx.onDisk d).disk.read p = _ from h]
    rfl
  | functionLength limit =>
    exact hinModule fun shown tree => tree.visit.filterMap (Check.longFunction? limit shown)
  | docstring scope =>
    show Check.undocumentedIn scope (ctx.onDisk d) p = Check.undocumentedIn scope ctx p
    rw [Check.undocumentedIn, Check.undocumentedIn, hinModule]

/-! ### What is found elsewhere -/

/-- In one source the same is found on both disks, apart from findings that lead to the file in which
the disks differ. -/
theorem filter_analyse_onDisk (a : Analyzer) (hproject : ctx.project.isAbsolute = true)
    (h : DiffersAt loc ctx.disk d) (hp : p ∈ ctx.sources.value) :
    (a.analyse (ctx.onDisk d) p).filter (fun f => !ctx.leadsTo loc f) =
      (a.analyse ctx p).filter fun f => !ctx.leadsTo loc f := by
  by_cases hloc : ctx.disk.resolve .find p = .ok loc
  · -- this is the file, and none of its findings is left
    have hnone (ctx' : Context) (hshown : ctx'.shown p = ctx.shown p) :
        (a.analyse ctx' p).filter (fun f => !ctx.leadsTo loc f) = [] := by
      rw [List.filter_eq_nil_iff]
      intro f hf
      have hpath := (a.path_of_mem_analyse hf).trans hshown
      rw [(Context.leadsTo_shown hproject hp hpath).2 hloc]
      decide
    rw [hnone (ctx.onDisk d) rfl, hnone ctx rfl]
  · rw [a.analyse_onDisk (h.read_eq hloc)]

theorem leadsTo_onDisk (h : DiffersAt loc ctx.disk d) :
    (ctx.onDisk d).leadsTo loc = ctx.leadsTo loc := by
  funext f
  show decide (d.resolve .find _ = _) = decide (ctx.disk.resolve .find _ = _)
  rw [h.resolve_eq]
  rfl

/-- Whatever two disks hold in the one file in which they differ, and whether or not it can be read, on
both of them the check ends with one result, and what it finds is the same, in the same order, apart from
the findings whose path leads to that file. -/
theorem findings_elsewhere_unaffected (a : Analyzer) (ctx : Context) (d : Disk) (loc : Location)
    (hproject : ctx.project.isAbsolute = true) (h : DiffersAt loc ctx.disk d) :
    (a.check.run ctx).value = .results [aggregate a.name a.header a.pass (a.findings ctx)] ∧
      (a.check.run (ctx.onDisk d)).value =
        .results [aggregate a.name a.header a.pass (a.findings (ctx.onDisk d))] ∧
      ((a.findings (ctx.onDisk d)).filter fun f => !(ctx.onDisk d).leadsTo loc f) =
        (a.findings ctx).filter fun f => !ctx.leadsTo loc f := by
  refine ⟨a.value_run hproject, a.value_run hproject, ?_⟩
  rw [leadsTo_onDisk h, findings, findings, Context.sources_onDisk h, List.filter_flatMap,
    List.filter_flatMap, List.flatMap_def, List.flatMap_def]
  congr 1
  exact List.map_congr_left fun p hp => filter_analyse_onDisk a hproject h hp

/-- A module beside one with a misspelled name is written over with bytes that are no text. -/
theorem findings_beside_undecodable_module :
    let loc : Location := ["b.py".toList, "src".toList, "p".toList]
    let d := (Disk.empty.putDeep ("A.py".toList :: loc.tail) (.file [120])).putDeep loc (.file [])
    let ctx : Context := ⟨⟨"/p"⟩, [⟨"src"⟩], .standard, d⟩
    (ctx.project.isAbsolute = true ∧ DiffersAt loc ctx.disk (d.put loc (.file [255]))) ∧
      (naming.findings (ctx.onDisk (d.put loc (.file [255])))).filter
          (fun f => !(ctx.onDisk (d.put loc (.file [255]))).leadsTo loc f) =
        (naming.findings ctx).filter fun f => !ctx.leadsTo loc f := by
  intro loc d ctx
  have hproject : ctx.project.isAbsolute = true := by decide
  have hfile : d.isFileAt loc = true := by decide
  have hdiffers : DiffersAt loc ctx.disk (d.put loc (.file [255])) := differsAt_put hfile rfl
  exact ⟨⟨hproject, hdiffers⟩,
    (findings_elsewhere_unaffected naming ctx _ loc hproject hdiffers).2.2⟩

end Analyzer

end QualityGate
