/-
The view of a result's details invents nothing.

Issues and files are taken from trimmed lines behind the first one, at most one from each.  What a rule
takes from a line is a contiguous part of that line, and no blank is at its end (`IsPartOf`): the whole
line, what stands behind a word that starts it, or a trimmed part of that.  So the entries of a list
belong to lines of the details, each to a line of its own and in the order of the lines (`AreSelected`).

A result that did not fail has a single line of details, which is none of the headers behind which files
are listed.  So there is nothing to take from it (`view_invents_nothing`).
-/
import Mathlib.Data.List.NodupEquivFin
import QualityGate.Proofs.Check.Builtin
import QualityGate.Proofs.Report.Coverage
import QualityGate.Proofs.Report.Findings
import QualityGate.Proofs.Text.Occurrence
import QualityGate.Proofs.Text.Trim

namespace QualityGate

open Text

namespace Details

variable {raw line word entry : List Char} {entries ls : List (List Char)}

/-! ### Entries and lines -/

/-- The entry is a contiguous part of the line, and does not end in a blank. -/
structure IsPartOf (entry line : List Char) : Prop where
  contiguous : entry <:+: line
  getLast?_not_blank : ∀ c, entry.getLast? = some c → isBlank c = false

/-- Each entry is a part of a line behind the first one, and the lines stand in the order of the entries,
a line for each. -/
def AreSelected (raw : List Char) (entries : List (List Char)) : Prop :=
  ∃ place : Nat → Nat, StrictMono place ∧ (∀ i, 1 ≤ place i) ∧
    ∀ i entry, entries[i]? = some entry →
      ∃ line, (lines raw)[place i]? = some line ∧ IsPartOf entry line

theorem areSelected_nil (raw : List Char) : AreSelected raw [] :=
  ⟨fun i => i + 1, fun _ _ h => Nat.succ_lt_succ h, fun i => Nat.succ_pos i, nofun⟩

/-- Parts of chosen lines are selected. -/
theorem areSelected_of_sublist {chosen : List (List Char)} (h : chosen.Sublist ((lines raw).drop 1))
    (hparts : List.Forall₂ IsPartOf entries chosen) : AreSelected raw entries := by
  -- the places of the chosen lines behind the first line, counted from the first line on
  obtain ⟨place, hplace⟩ := List.sublist_iff_exists_orderEmbedding_getElem?_eq.1 h
  refine ⟨fun i => 1 + place i, fun i j hij => ?_, fun i => Nat.le_add_right 1 _, ?_⟩
  · exact Nat.add_lt_add_left (place.strictMono hij) 1
  · intro i entry hentry
    obtain ⟨hi, rfl⟩ := List.getElem?_eq_some_iff.1 hentry
    have hi' : i < chosen.length := hparts.length_eq ▸ hi
    refine ⟨chosen[i], ?_, hparts.get hi hi'⟩
    rw [← List.getElem?_drop, ← hplace, List.getElem?_eq_getElem hi']

/-- A rule that takes parts of trimmed lines chooses lines. -/
theorem exists_chosen {f : List Char → Option (List Char)}
    (h : ∀ line entry, f (trim line) = some entry → IsPartOf entry line) (ls : List (List Char)) :
    ∃ chosen : List (List Char), chosen.Sublist ls ∧
      List.Forall₂ IsPartOf (((ls.map trim).filter (· ≠ [])).filterMap f) chosen := by
  induction ls with
  | nil => exact ⟨[], List.Sublist.refl _, .nil⟩
  | cons line rest ih =>
    -- the line is chosen only if it is not empty once trimmed and something is taken from it
    obtain ⟨chosen, hsub, hparts⟩ := ih
    rw [List.map_cons, List.filter_cons]
    split
    · rw [List.filterMap_cons]
      rcases hentry : f (trim line) with - | entry
      · exact ⟨chosen, hsub.cons _, hparts⟩
      · exact ⟨line :: chosen, hsub.cons_cons _, .cons (h line entry hentry) hparts⟩
    · exact ⟨chosen, hsub.cons _, hparts⟩

/-- Entries that are parts of their own lines are selected from the text. -/
theorem areSelected_filterMap {f : List Char → Option (List Char)}
    (h : ∀ line entry, f (trim line) = some entry → IsPartOf entry line) (raw : List Char) :
    AreSelected raw ((bodyLines raw).filterMap f) := by
  obtain ⟨chosen, hsub, hparts⟩ := exists_chosen h ((lines raw).drop 1)
  exact areSelected_of_sublist hsub hparts

/-! ### What the rules take from a line -/

theorem isPartOf_trim (line : List Char) : IsPartOf (trim line) line :=
  ⟨trim_isInfix line, fun _ => getLast?_trim⟩

/-- A part of a part, trimmed. -/
theorem isPartOf_trim_of_infix {part : List Char} (h : part <:+: trim line) :
    IsPartOf (trim part) line :=
  ⟨(trim_isInfix part).trans (h.trans (trim_isInfix line)), fun _ => getLast?_trim⟩

/-- What stands behind a word at the start of a trimmed line. -/
theorem isPartOf_of_after? (h : after? word (trim line) = some entry) : IsPartOf entry line := by
  have hline := eq_append_of_after? h
  refine ⟨?_, ?_⟩
  · exact (List.suffix_append word entry).isInfix.trans (hline ▸ trim_isInfix line)
  · intro c hc
    apply getLast?_trim (s := line)
    rw [hline, List.getLast?_append, hc]
    rfl

/-- What a line of an import sorter names: in the header of a diff, or in an error. -/
theorem isPartOf_of_unsortedFile? (h : unsortedFile? (trim line) = some entry) :
    IsPartOf entry line := by
  -- in either form a trimmed part of what stands behind a word
  have hpart {start word rest path more : List Char} (hrest : after? start (trim line) = some rest)
      (hpath : around? word rest = some (path, more)) : IsPartOf (trim path) line := by
    apply isPartOf_trim_of_infix
    rw [eq_append_of_after? hrest, eq_append_of_around? hpath, List.append_assoc]
    exact List.infix_append' start path _
  rw [unsortedFile?] at h
  split at h
  · next path more heq =>
    obtain ⟨rest, hrest, hpath⟩ := Option.bind_eq_some_iff.1 heq
    obtain rfl := Option.some.inj h
    exact hpart hrest hpath
  · simp only [Option.bind_eq_bind, Option.bind_eq_some_iff, Prod.exists] at h
    obtain ⟨rest, hrest, path, more, hpath, hentry⟩ := h
    obtain rfl := Option.some.inj hentry
    exact hpart hrest hpath

/-! ### Issues and files -/

theorem areSelected_filter (p : List Char → Bool) (raw : List Char) :
    AreSelected raw ((bodyLines raw).filter p) := by
  rw [← List.filterMap_eq_filter]
  apply areSelected_filterMap
  intro line entry hentry
  obtain ⟨rfl, -⟩ := Option.guard_eq_some_iff.1 hentry
  exact isPartOf_trim line

theorem areSelected_after? (word raw : List Char) :
    AreSelected raw ((bodyLines raw).filterMap (after? word)) :=
  areSelected_filterMap (fun _ _ => isPartOf_of_after?) raw

/-- The first ones of selected entries are selected. -/
theorem AreSelected.of_isPrefix {first : List (List Char)} (h : AreSelected raw entries)
    (hfirst : first <+: entries) : AreSelected raw first := by
  obtain ⟨place, hmono, hbehind, hparts⟩ := h
  obtain ⟨more, rfl⟩ := hfirst
  refine ⟨place, hmono, hbehind, fun i entry hentry => hparts i entry ?_⟩
  obtain ⟨hi, -⟩ := List.getElem?_eq_some_iff.1 hentry
  rw [List.getElem?_append_left hi, hentry]

theorem areSelected_unformattedFiles (raw : List Char) :
    AreSelected raw (unformattedFiles (bodyLines raw)) := by
  have hlines : AreSelected raw (bodyLines raw) := by
    have hall := areSelected_filter (fun _ => true) raw
    rwa [List.filter_true] at hall
  rw [unformattedFiles]
  split
  · exact hlines.of_isPrefix (List.takeWhile_prefix _)
  · exact areSelected_after? _ raw

/-- The issues of every kind of result are selected from its text. -/
theorem areSelected_issuesOf (name : String) (raw : List Char) :
    AreSelected raw (issuesOf name (bodyLines raw)) := by
  rw [issuesOf]
  split
  · exact areSelected_filter _ raw
  · split
    · exact areSelected_filter _ raw
    · split
      · exact areSelected_filter _ raw
      · split
        · exact areSelected_after? _ raw
        · exact areSelected_nil raw

/-- So are its files, where it has any. -/
theorem areSelected_filesOf {name : String} {files : List (List Char)}
    (h : filesOf name raw = some files) : AreSelected raw files := by
  rw [filesOf] at h
  split at h
  · obtain ⟨-, hfiles⟩ := Option.ite_none_right_eq_some.1 h
    obtain rfl := Option.some.inj hfiles
    exact areSelected_unformattedFiles raw
  · split at h
    · obtain ⟨-, hfiles⟩ := Option.ite_none_right_eq_some.1 h
      obtain rfl := Option.some.inj hfiles
      exact areSelected_filterMap (fun _ _ => isPartOf_of_unsortedFile?) raw
    · cases h

/-! ### Details on one line -/

/-- The view finds neither issues nor files. -/
def FindsNothing (r : CheckResult) : Prop :=
  (parse r.name r.details).issues = [] ∧ (parse r.name r.details).files = none

theorem issuesOf_nil (name : String) : issuesOf name [] = [] := by
  rw [issuesOf]
  simp only [List.filter_nil, List.filterMap_nil, ite_self]

theorem bodyLines_of_notMem (h : '\n' ∉ raw) : bodyLines raw = [] := by
  by_cases hne : raw = []
  · rw [hne]
    rfl
  · rw [bodyLines, lines_of_notMem h hne]
    rfl

/-- Details of one line list nothing. -/
theorem findsNothing_of_notMem {r : CheckResult} (h : '\n' ∉ r.details.toList)
    (hfiles : filesOf r.name r.details.toList = none) : FindsNothing r := by
  refine ⟨?_, ?_⟩
  · rw [parse, bodyLines_of_notMem h, issuesOf_nil]
    rfl
  · rw [parse, hfiles]
    rfl

/-- The text is one line, and it is no header behind which files are listed. -/
structure IsPlain (text : List Char) : Prop where
  notMem : '\n' ∉ text
  noFormatter : startsWith "Files need formatting".toList text = false
  noSorter : startsWith "Imports need sorting".toList text = false

instance (text : List Char) : Decidable (IsPlain text) :=
  decidable_of_iff
    ('\n' ∉ text ∧ startsWith "Files need formatting".toList text = false ∧
      startsWith "Imports need sorting".toList text = false)
    ⟨fun ⟨h₁, h₂, h₃⟩ => ⟨h₁, h₂, h₃⟩, fun ⟨h₁, h₂, h₃⟩ => ⟨h₁, h₂, h₃⟩⟩

/-- The result failed, or its details are plain. -/
def IsQuiet (r : CheckResult) : Prop :=
  r.status ≠ .failed → IsPlain r.details.toList

theorem isQuiet_of_failed {r : CheckResult} (h : r.status = .failed) : IsQuiet r :=
  fun hnot => absurd h hnot

/-- A quiet result that did not fail lists nothing. -/
theorem IsQuiet.findsNothing {r : CheckResult} (hquiet : IsQuiet r) (h : r.status ≠ .failed) :
    FindsNothing r := by
  have hplain := hquiet h
  apply findsNothing_of_notMem hplain.notMem
  rw [filesOf, hplain.noFormatter, hplain.noSorter]
  simp only [Bool.false_eq_true, if_false, ite_self]

end Details

/-! ### Results that did not fail -/

open Details (FindsNothing IsPlain IsQuiet isQuiet_of_failed)

namespace Tool

theorem isQuiet_coverageResult (answer : ToolAnswer) (min : Nat) :
    IsQuiet (coverageResult answer min) := by
  rcases h : Coverage.percentage? answer.stdout with - | p
  · rw [coverageResult, h]
    exact isQuiet_of_failed rfl
  · rcases Nat.lt_or_ge p min with hlt | hge
    · exact isQuiet_of_failed (coverageResult_of_lt h hlt).1
    · intro _
      rw [(coverageResult_of_le h hge).2]
      exact ⟨(isLine_statement p min _ (by decide)).notMem, rfl, rfl⟩

theorem isPlain_sentence (tool : Tool) : IsPlain tool.sentences.1.toList := by
  cases tool <;> decide

/-- What a tool says is quiet unless its check failed. -/
theorem isQuiet_evaluate (tool : Tool) (answer : ToolAnswer) (min : Nat) :
    IsQuiet (tool.evaluate answer min) := by
  rw [evaluate]
  split
  · exact isQuiet_coverageResult answer min
  · split
    · exact fun _ => tool.isPlain_sentence
    · split
      · exact isQuiet_of_failed rfl
      · exact isQuiet_of_failed rfl

end Tool

namespace Check

variable {ctx : Context} {r : CheckResult} {name : String} {run : Context → Path → Traced CheckResult}

theorem mem_resultsIn_ofProject (h : r ∈ (ofProject name run).resultsIn ctx) :
    ∃ project, r = (run ctx project).value := by
  rw [resultsIn, ofProject] at h
  dsimp only at h
  rcases hproject : ctx.requireProject with cause | project
  · rw [hproject] at h
    cases h
  · rw [hproject] at h
    exact ⟨project, List.mem_singleton.1 h⟩

theorem isPlain_skipReason? {tool : Tool} {reason : String} (h : skipReason? tool ctx = some reason) :
    IsPlain reason.toList := by
  rw [skipReason?] at h
  split at h
  · obtain rfl := Option.some.inj h
    decide
  · obtain ⟨-, hreason⟩ := Option.ite_none_right_eq_some.1 h
    obtain rfl := Option.some.inj hreason
    decide

theorem isPlain_noRunner : IsPlain noRunner.toList := by
  decide

/-- So is what is said in its place, if it is skipped or cannot be run. -/
theorem isQuiet_runTool (tool : Tool) (runner : ToolRunner) (ctx : Context) (project : Path) :
    IsQuiet (runTool tool runner ctx project).value := by
  rw [runTool, Traced.value_bind]
  rcases (callWith runner (callOf tool ctx project)).value with reason | answer
  · exact isQuiet_of_failed rfl
  · exact tool.isQuiet_evaluate answer _

theorem isQuiet_ofTool {tool : Tool} {runner : Option ToolRunner}
    (h : r ∈ (ofTool tool runner).resultsIn ctx) : IsQuiet r := by
  obtain ⟨project, rfl⟩ := mem_resultsIn_ofProject h
  rcases hreason : skipReason? tool ctx with - | reason
  · cases runner with
    | none => exact fun _ => isPlain_noRunner
    | some runner => exact isQuiet_runTool tool runner ctx project
  · exact fun _ => isPlain_skipReason? hreason

theorem isQuiet_dependencyResult (entries : List String) : IsQuiet (dependencyResult entries) := by
  have hpass : IsPlain "All dependencies are up-to-date.".toList := by decide
  cases entries with
  | nil => exact fun _ => hpass
  | cons entry rest => exact isQuiet_of_failed rfl

theorem isQuiet_runDependency (runner : ToolRunner) (ctx : Context) (project : Path)
    (files : List Path) : IsQuiet (runDependency runner ctx project files).value := by
  rw [runDependency, Traced.value_bind]
  rcases outdatedPackages (outdatedCall project) (callWith runner (outdatedCall project)).value
    with reason | packages
  · exact isQuiet_of_failed rfl
  · exact isQuiet_dependencyResult _

theorem isQuiet_dependency {runner : Option ToolRunner} (h : r ∈ (dependency runner).resultsIn ctx) :
    IsQuiet r := by
  have hnone : IsPlain "No requirements.txt files found.".toList := by decide
  obtain ⟨project, rfl⟩ := mem_resultsIn_ofProject h
  rw [Traced.value_bind]
  rcases (ctx.list isRequirementFile project).files with - | ⟨file, files⟩
  · exact fun _ => hnone
  · cases runner with
    | none => exact fun _ => isPlain_noRunner
    | some runner => exact isQuiet_runDependency runner ctx project (file :: files)

theorem exists_eq_aggregate {a : Analyzer} (h : r ∈ a.check.resultsIn ctx) :
    ∃ findings, r = aggregate a.name a.header a.pass findings := by
  rw [a.check_eq_ofSources] at h
  obtain ⟨project, rfl⟩ := mem_resultsIn_ofProject h
  exact ⟨ctx.sources.value.flatMap (a.analyse ctx), rfl⟩

/-- An analyzer lists no files, so its sentence for no findings need only be one line. -/
theorem findsNothing_analyzer {a : Analyzer} (hr : r ∈ a.check.resultsIn ctx)
    (h : r.status ≠ .failed) : FindsNothing r := by
  obtain ⟨findings, rfl⟩ := exists_eq_aggregate hr
  cases findings with
  | nil => exact Details.findsNothing_of_notMem a.isLine_pass.notMem (a.filesOf_name _)
  | cons f rest => exact absurd rfl h

end Check

/-- No built-in check lists anything without failing. -/
theorem Builtin.findsNothing (b : Builtin) {ctx : Context} {r : CheckResult}
    (hr : r ∈ b.check.resultsIn ctx) (h : r.status ≠ .failed) : FindsNothing r := by
  rcases b with ⟨tool | -, runner⟩ | a
  · exact (Check.isQuiet_ofTool hr).findsNothing h
  · exact (Check.isQuiet_dependency hr).findsNothing h
  · exact Check.findsNothing_analyzer hr h

namespace Details

/-- Whatever check and details the view is of: its summary is the first line of the details, and empty
without one; its issues are parts of lines behind the first one, in their order and a line for each, none
with a blank at its end; and so are its files, if it has any list of files.  For the results of a built-in
check that did not fail there are no issues and no files. -/
theorem view_invents_nothing :
    (∀ name raw : String,
      (parse name raw).summary.toList = ((lines raw.toList)[0]?).getD [] ∧
      AreSelected raw.toList ((parse name raw).issues.map String.toList) ∧
      ∀ files, (parse name raw).files = some files →
        AreSelected raw.toList (files.map String.toList)) ∧
    ∀ (b : Builtin) (ctx : Context), ∀ r ∈ b.check.resultsIn ctx,
      r.status = .passed ∨ r.status = .skipped →
        (parse r.name r.details).issues = [] ∧ (parse r.name r.details).files = none := by
  have htexts (texts : List (List Char)) : (texts.map String.ofList).map String.toList = texts := by
    simp [Function.comp_def]
  -- the summary, the issues and the files of any text; then the checks of the program
  refine ⟨fun name raw => ⟨?_, ?_, ?_⟩, ?_⟩
  · rw [parse, String.toList_ofList, List.headD_eq_head?_getD, List.head?_eq_getElem?]
  · rw [parse, htexts]
    exact areSelected_issuesOf name raw.toList
  · intro files h
    obtain ⟨taken, htaken, rfl⟩ := Option.map_eq_some_iff.1 h
    rw [htexts]
    exact areSelected_filesOf htaken
  · intro b ctx r hr h
    apply b.findsNothing hr
    rcases h with h | h
    all_goals
      rw [h]
      decide

end Details

end QualityGate
