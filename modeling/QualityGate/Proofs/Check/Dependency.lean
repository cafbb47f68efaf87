/-
The check of requirements against the list of outdated packages.

A requirement file is current if it can be read and none of its lines names a listed package; the check
passes exactly if all are (`outdatedIn_eq_nil_iff`).  Otherwise it says one thing of each file that cannot
be read, and one of each line that names a listed package (`ReportsFile`), file by file in their order.

For the result the list of packages counts only through what is found in it by name, and a requirement
file only through the names in its lines.  So neither the order of a list of different names matters nor
the case of letters in requirement files (`reports_outdated_requirements`).
-/
import Mathlib.Logic.Relation
import QualityGate.Check.Dependency
import QualityGate.Proofs.Check.Independence
import QualityGate.Proofs.Check.SyntaxError
import QualityGate.Proofs.Tooling.Outdated
import QualityGate.Proofs.Tooling.Requirement

namespace QualityGate

open OutdatedPackage

/-! ### Disks with a text in another case -/

namespace Disk

variable {d d' : Disk} {p : Path} {loc : Location} {bytes : List UInt8} {text : List Char}

/-- One file has another text on the second disk: the same but for the case of ASCII letters. -/
def Recases (d d' : Disk) : Prop :=
  ∃ loc bytes bytes' text text', DiffersAt loc d d' ∧
    d.lookup? loc = some (.file bytes) ∧ Text.decode? bytes = some text ∧
    d'.lookup? loc = some (.file bytes') ∧ Text.decode? bytes' = some text' ∧
    text.map Char.toLower = text'.map Char.toLower

theorem readText_of_file (hp : d.resolve .find p = .ok loc) (hfile : d.lookup? loc = some (.file bytes))
    (htext : Text.decode? bytes = some text) : d.readText p = .ok text := by
  rw [readText_of_read (read_of_file hp hfile), htext]

/-- A path leads to the same text on both disks, or to two texts that differ in case only. -/
theorem Recases.readText_cases (h : Recases d d') (p : Path) :
    d'.readText p = d.readText p ∨
      ∃ text text', d.readText p = .ok text ∧ d'.readText p = .ok text' ∧
        text.map Char.toLower = text'.map Char.toLower := by
  obtain ⟨loc, bytes, bytes', text, text', hdiffers, hfile, htext, hfile', htext', hcase⟩ := h
  by_cases hp : d.resolve .find p = .ok loc
  · have hp' : d'.resolve .find p = .ok loc := (hdiffers.resolve_eq p).trans hp
    exact .inr ⟨text, text', readText_of_file hp hfile htext, readText_of_file hp' hfile' htext', hcase⟩
  · left
    rw [readText, readText, hdiffers.read_eq hp]

end Disk

/-- The requirement files, in the order in which they are looked at. -/
def Context.requirementFiles (ctx : Context) : List Path :=
  (ctx.list Check.isRequirementFile ctx.project).files

namespace Check

variable {packages others : List OutdatedPackage} {ctx : Context} {path shown : Path}
  {runner : ToolRunner} {line : List Char} {d : Disk}

/-! ### What is said of requirement files -/

/-- The line names a package of the list. -/
def NamesListed (packages : List OutdatedPackage) (line : List Char) : Prop :=
  ∃ key ∈ keys packages, requirementName? line = some key

instance (packages : List OutdatedPackage) : DecidablePred (NamesListed packages) := fun line =>
  decidable_of_iff ((requirementName? line).any fun key => key ∈ keys packages) <| by
    rw [NamesListed]
    rcases requirementName? line with - | key <;> simp

/-- The entry is about the package that the line names, the last one of that name in the list. -/
def ReportsLine (packages : List OutdatedPackage) (shown : Path) (line : List Char) (entry : String) :
    Prop :=
  ∃ key p, requirementName? line = some key ∧ IsLastNamed packages key p ∧
    entry = "- " ++ shown.text ++ ": " ++ p.name ++ " (current: " ++ p.version ++ ", latest: " ++
      p.latest ++ ")"

/-- The entries are those about a file: one that says why it cannot be read, or one about each line that
names a listed package. -/
inductive ReportsFile (packages : List OutdatedPackage) (ctx : Context) (path : Path) :
    List String → Prop
  | unreadable {cause : IoError} (h : ctx.disk.readText path = .error cause) :
    ReportsFile packages ctx path ["- " ++ (ctx.shown path).text ++ ": Error: " ++ cause.message]
  | readable {text : List Char} {entries : List String} (h : ctx.disk.readText path = .ok text)
    (hentries : List.Forall₂ (ReportsLine packages (ctx.shown path))
      ((Text.lines text).filter fun line => NamesListed packages line) entries) :
    ReportsFile packages ctx path entries

/-- The file can be read, and none of its lines names a listed package. -/
def IsCurrent (packages : List OutdatedPackage) (ctx : Context) (path : Path) : Prop :=
  ∃ text, ctx.disk.readText path = .ok text ∧ ∀ line ∈ Text.lines text, ¬ NamesListed packages line

/-- Each line that names a listed package gives one entry, and no other line gives any. -/
theorem forall₂_reportsLine (packages : List OutdatedPackage) (shown : Path) (lines : List (List Char)) :
    List.Forall₂ (ReportsLine packages shown) (lines.filter fun line => NamesListed packages line)
      ((lines.filterMap requirementName?).filterMap fun name =>
        (find? packages name).map (outdatedLine shown)) := by
  induction lines with
  | nil => exact .nil
  | cons line lines ih =>
    rcases hname : requirementName? line with - | key
    · -- the line names nothing
      have hnot : ¬ NamesListed packages line := by
        rintro ⟨key, -, hkey⟩
        rw [hname] at hkey
        cases hkey
      rwa [List.filter_cons_of_neg (by simpa using hnot), List.filterMap_cons_none hname]
    · rw [List.filterMap_cons_some hname]
      rcases hfind : find? packages key with - | p
      · -- the line names a package that is not outdated
        have hnot : ¬ NamesListed packages line := by
          rintro ⟨other, hother, hkey⟩
          obtain rfl := Option.some.inj (hname.symm.trans hkey)
          exact find?_eq_none_iff.1 hfind hother
        rwa [List.filter_cons_of_neg (by simpa using hnot),
          List.filterMap_cons_none (by rw [hfind, Option.map_none])]
      · have hlast := find?_eq_some_iff.1 hfind
        have hlisted : NamesListed packages line := ⟨key, hlast.mem_keys, hname⟩
        rw [List.filter_cons_of_pos (by simpa using hlisted),
          List.filterMap_cons_some (by rw [hfind, Option.map_some])]
        exact .cons ⟨key, p, hname, hlast, rfl⟩ ih

theorem reportsFile_outdatedIn (packages : List OutdatedPackage) (ctx : Context) (path : Path) :
    ReportsFile packages ctx path (outdatedIn packages ctx path) := by
  rw [outdatedIn]
  split
  · next hread => exact .unreadable hread
  · next hread => exact .readable hread (forall₂_reportsLine packages _ _)

theorem ReportsFile.eq_nil_iff {entries : List String} (h : ReportsFile packages ctx path entries) :
    entries = [] ↔ IsCurrent packages ctx path := by
  cases h with
  | unreadable hread =>
    refine iff_of_false (List.cons_ne_nil _ _) ?_
    rintro ⟨text, htext, -⟩
    rw [hread] at htext
    cases htext
  | @readable text _ hread hentries =>
    have hlines : entries = [] ↔ ∀ line ∈ Text.lines text, ¬ NamesListed packages line := by
      -- there are as many entries as lines that name a listed package
      rw [← List.length_eq_zero_iff, ← hentries.length_eq, List.length_eq_zero_iff,
        List.filter_eq_nil_iff]
      simp
    rw [hlines]
    constructor
    · exact fun hnone => ⟨text, hread, hnone⟩
    · rintro ⟨text', htext', hnone⟩
      rw [hread] at htext'
      rwa [Except.ok.inj htext']

/-! ### The result -/

/-- The package tool succeeds, and lists the packages. -/
def Answers (runner : ToolRunner) (project : Path) (packages : List OutdatedPackage) : Prop :=
  ∃ answer, runner (outdatedCall project) = .ok answer ∧ answer.code = some 0 ∧
    OutdatedPackage.parse? answer.stdout = some packages

theorem outdatedPackages_of_answers {project : Path} (h : Answers runner project packages) :
    outdatedPackages (outdatedCall project) (runner (outdatedCall project)) = .ok packages := by
  obtain ⟨answer, hanswer, hcode, hpackages⟩ := h
  have hsucceeded : answer.succeeded = true := by
    rw [ToolAnswer.succeeded, hcode]
    rfl
  rw [hanswer, outdatedPackages, if_pos hsucceeded, hpackages]

/-- With the list of packages the result is made from what is said of all files. -/
theorem value_run_dependency (hproject : ctx.project.isAbsolute = true)
    (hfiles : ctx.requirementFiles ≠ []) (hanswers : Answers runner ctx.project packages) :
    ((dependency (some runner)).run ctx).value =
      .results [dependencyResult (ctx.requirementFiles.flatMap (outdatedIn packages ctx))] := by
  -- the check asks whether there is a first file at all
  obtain ⟨file, files, hcons⟩ := List.exists_cons_of_ne_nil hfiles
  rw [hcons]
  rw [Context.requirementFiles] at hcons
  have hrun : ((dependency (some runner)).run ctx).value =
      .results [(runDependency runner ctx ctx.project (file :: files)).value] := by
    rw [dependency, run_ofProject_of_isAbsolute _ _ hproject]
    simp only [hcons]
    rfl
  rw [hrun, runDependency, Traced.value_bind]
  have hcall : (callWith runner (outdatedCall ctx.project)).value =
    runner (outdatedCall ctx.project) := rfl
  rw [hcall, outdatedPackages_of_answers hanswers]
  rfl

theorem dependencyResult_nil :
    dependencyResult [] = ⟨"Dependency Check", .passed, "All dependencies are up-to-date."⟩ := rfl

theorem dependencyResult_of_ne_nil {entries : List String} (h : entries ≠ []) :
    dependencyResult entries = ⟨"Dependency Check", .failed,
      "Outdated dependencies found:\n" ++ "\n".intercalate entries⟩ := by
  obtain ⟨entry, rest, rfl⟩ := List.exists_cons_of_ne_nil h
  rfl

/-! ### What does not matter -/

/-- Of the list only what is found by name counts. -/
theorem outdatedIn_congr (h : ∀ key, find? others key = find? packages key) (ctx : Context) :
    outdatedIn others ctx = outdatedIn packages ctx := by
  funext path
  rw [outdatedIn, outdatedIn]
  simp only [h]

/-- Of the texts only the names in their lines count. -/
theorem outdatedIn_onDisk (ctx : Context) (h : Disk.Recases ctx.disk d)
    (packages : List OutdatedPackage) :
    outdatedIn packages (ctx.onDisk d) = outdatedIn packages ctx := by
  funext path
  have hshown : (ctx.onDisk d).shown path = ctx.shown path := rfl
  rw [outdatedIn, outdatedIn, hshown]
  rcases h.readText_cases path with hsame | ⟨text, text', htext, htext', hcase⟩
  · rw [show (ctx.onDisk d).disk.readText path = _ from hsame]
  · rw [show (ctx.onDisk d).disk.readText path = _ from htext', htext]
    simp only [requirementNames_congr hcase]

theorem requirementFiles_onDisk (ctx : Context) (h : Disk.Recases ctx.disk d) :
    (ctx.onDisk d).requirementFiles = ctx.requirementFiles := by
  obtain ⟨loc, -, -, -, -, hdiffers, -⟩ := h
  exact hdiffers.files_list _ _ _

/-- Texts in another case, in one file after another, leave the same to say of the same files. -/
theorem outdatedIn_of_recases (h : Relation.ReflTransGen Disk.Recases ctx.disk d)
    (packages : List OutdatedPackage) :
    (ctx.onDisk d).requirementFiles = ctx.requirementFiles ∧
      outdatedIn packages (ctx.onDisk d) = outdatedIn packages ctx := by
  induction h with
  | refl => exact ⟨rfl, rfl⟩
  | @tail d₁ d₂ _ hstep ih =>
    exact ⟨(requirementFiles_onDisk (ctx.onDisk d₁) hstep).trans ih.1,
      (outdatedIn_onDisk (ctx.onDisk d₁) hstep packages).trans ih.2⟩

/-! ### The check -/

/-- With requirement files and a package tool that lists packages, the check passes exactly if all files
are current.  Otherwise it fails, with one entry for each file that cannot be read and one for each line
that names a listed package, in the order of the files and of their lines.  The result is the same for
the packages in another order, if their lower-cased names differ, and for requirement files in which ASCII
letters stand in another case. -/
theorem reports_outdated_requirements (ctx : Context) (runner : ToolRunner)
    (packages : List OutdatedPackage) (hproject : ctx.project.isAbsolute = true)
    (hfiles : ctx.requirementFiles ≠ []) (hanswers : Answers runner ctx.project packages) :
    (ctx.requirementFiles.Pairwise fun p q => p.compare q = .lt) ∧
    (∃ result entries, ((dependency (some runner)).run ctx).value = .results [result] ∧
      result.name = "Dependency Check" ∧
      List.Forall₂ (ReportsFile packages ctx) ctx.requirementFiles entries ∧
      (result.status = .passed ↔ ∀ path ∈ ctx.requirementFiles, IsCurrent packages ctx path) ∧
      (result.status = .passed → result.details = "All dependencies are up-to-date.") ∧
      (result.status ≠ .passed → result.status = .failed ∧
        result.details = "Outdated dependencies found:\n" ++ "\n".intercalate entries.flatten)) ∧
    (∀ runner' packages', Answers runner' ctx.project packages' → packages.Perm packages' →
      (keys packages).Nodup →
      ((dependency (some runner')).run ctx).value = ((dependency (some runner)).run ctx).value) ∧
    ∀ d, Relation.ReflTransGen Disk.Recases ctx.disk d →
      ((dependency (some runner)).run (ctx.onDisk d)).value =
        ((dependency (some runner)).run ctx).value := by
  have hvalue := value_run_dependency hproject hfiles hanswers
  refine ⟨Disk.pairwise_files_list _ _ _ _,
    ⟨_, ctx.requirementFiles.map (outdatedIn packages ctx), hvalue, ?_⟩, ?_, ?_⟩
  · have hreports : List.Forall₂ (ReportsFile packages ctx) ctx.requirementFiles
        (ctx.requirementFiles.map (outdatedIn packages ctx)) := by
      rw [List.forall₂_map_right_iff, List.forall₂_same]
      exact fun path _ => reportsFile_outdatedIn packages ctx path
    have hnil : ctx.requirementFiles.flatMap (outdatedIn packages ctx) = [] ↔
        ∀ path ∈ ctx.requirementFiles, IsCurrent packages ctx path := by
      rw [List.flatMap_eq_nil_iff]
      exact forall₂_congr fun path _ => (reportsFile_outdatedIn packages ctx path).eq_nil_iff
    rw [← List.flatMap_def, ← hnil]
    by_cases hnone : ctx.requirementFiles.flatMap (outdatedIn packages ctx) = []
    · rw [hnone, dependencyResult_nil]
      exact ⟨rfl, hreports, by simp, fun _ => rfl, fun hne => absurd rfl hne⟩
    · rw [dependencyResult_of_ne_nil hnone]
      exact ⟨rfl, hreports, by simp [hnone], nofun, fun _ => ⟨rfl, rfl⟩⟩
  · intro runner' packages' hanswers' hperm hnodup
    -- names without repeats are found alike in any order
    have hfind (key : String) : find? packages' key = find? packages key :=
      find?_eq_of_perm hperm hnodup
    rw [hvalue, value_run_dependency hproject hfiles hanswers', outdatedIn_congr hfind]
  · intro d hrecases
    -- recasing a file changes neither which files there are nor what is said of each
    obtain ⟨hsame, hsaid⟩ := outdatedIn_of_recases hrecases packages
    have hrun : ((dependency (some runner)).run (ctx.onDisk d)).value = _ :=
      value_run_dependency hproject (hsame ▸ hfiles) hanswers
    rw [hvalue, hrun, hsame, hsaid]

/-- A requirement file names a listed package twice, in different cases: the check fails, and neither the
order of the list nor the case in the file changes what it says. -/
theorem reports_outdated_requirement_in_either_case :
    let flask : OutdatedPackage := ⟨"Flask", "1", "2"⟩
    let jinja : OutdatedPackage := ⟨"Jinja", "3", "4"⟩
    let item : OutdatedPackage → String := fun p => "\x7b\"name\":\"" ++ p.name ++
      "\",\"version\":\"" ++ p.version ++ "\",\"latest_version\":\"" ++ p.latest ++ "\"\x7d"
    let lists : OutdatedPackage → OutdatedPackage → ToolRunner := fun p q _ =>
      .ok ⟨some 0, "[" ++ item p ++ "," ++ item q ++ "]", ""⟩
    let bytes : String → List UInt8 := fun s => s.toUTF8.toList
    let loc : Location := ["requirements.txt".toList, "p".toList]
    let d := Disk.empty.putDeep loc (.file (bytes "Flask==1\nflask\n"))
    let ctx : Context := ⟨⟨"/p"⟩, [], .standard, d⟩
    let recased := d.put loc (.file (bytes "FLASK==1\nFlask\n"))
    (ctx.project.isAbsolute = true ∧ ctx.requirementFiles ≠ [] ∧
      Answers (lists flask jinja) ctx.project [flask, jinja]) ∧
    (∃ result, ((dependency (some (lists flask jinja))).run ctx).value = .results [result] ∧
      result.status = .failed) ∧
    ((dependency (some (lists jinja flask))).run ctx).value =
      ((dependency (some (lists flask jinja))).run ctx).value ∧
    ((dependency (some (lists flask jinja))).run (ctx.onDisk recased)).value =
      ((dependency (some (lists flask jinja))).run ctx).value := by
  intro flask jinja item lists bytes loc d ctx recased
  have hproject : ctx.project.isAbsolute = true := by decide
  have hlisted : Answers (lists flask jinja) ctx.project [flask, jinja] :=
    ⟨_, rfl, rfl, by decide +kernel⟩
  have hswapped : Answers (lists jinja flask) ctx.project [jinja, flask] :=
    ⟨_, rfl, rfl, by decide +kernel⟩
  -- the file stands in the project itself, and it can be read on both disks
  have hmem : ctx.project.child "requirements.txt" ∈ ctx.requirementFiles :=
    Disk.mem_files_list_of_child "requirements.txt".toList (by decide +kernel) (by decide +kernel)
      (by decide +kernel) (by decide +kernel)
  have hfile : d.lookup? loc = some (.file (bytes "Flask==1\nflask\n")) := by decide +kernel
  have htext : Text.decode? (bytes "Flask==1\nflask\n") = some "Flask==1\nflask\n".toList := by
    decide +kernel
  have htext' : Text.decode? (bytes "FLASK==1\nFlask\n") = some "FLASK==1\nFlask\n".toList := by
    decide +kernel
  have hdiffers : Disk.DiffersAt loc ctx.disk recased :=
    Disk.differsAt_put (Disk.isFileAt_iff.2 ⟨_, hfile, rfl⟩) rfl
  have hrecases : Disk.Recases ctx.disk recased :=
    ⟨loc, _, _, _, _, hdiffers, hfile, htext, by decide +kernel, htext', by decide +kernel⟩
  have hsome : (ctx.disk.readText (ctx.project.child "requirements.txt")).toOption =
      some "Flask==1\nflask\n".toList := by decide +kernel
  have hread := eq_ok_of_toOption hsome
  have hnot : ¬ IsCurrent [flask, jinja] ctx (ctx.project.child "requirements.txt") := by
    rintro ⟨text, htext, hnone⟩
    rw [hread] at htext
    exact hnone "flask".toList (by rw [← Except.ok.inj htext]; decide +kernel) (by decide +kernel)
  have hfiles := List.ne_nil_of_mem hmem
  obtain ⟨-, ⟨result, _, hrun, -, -, hpassed, -, hfailed⟩, hperm, hcase⟩ :=
    reports_outdated_requirements ctx (lists flask jinja) [flask, jinja] hproject hfiles hlisted
  exact ⟨⟨hproject, hfiles, hlisted⟩,
    ⟨result, hrun, (hfailed fun h => hnot (hpassed.1 h _ hmem)).1⟩,
    hperm _ _ hswapped (.swap _ _ _) (by decide +kernel), hcase recased (.single hrecases)⟩

end Check

end QualityGate
