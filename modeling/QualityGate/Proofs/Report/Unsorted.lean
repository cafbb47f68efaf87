/-
Files that an import sorter would change.

The sorter is told to check files and to show what it would change, and names a file for each of the two: in
its output there is a diff for the file, and in its error stream an error (`ReportsUnsorted`).  The view takes
the file from the header of the diff (`fileOfLine?_oldHeader`) and from the error (`fileOfLine?_sortError`),
and does not compare what it takes.  So every file is listed twice (`unsorted_files_listed_twice`), and once
more for every line of a diff that reads as if it named the file.
-/
import Mathlib.Data.List.Count
import Mathlib.Data.List.Nodup
import QualityGate.Proofs.Gate.Pipeline
import QualityGate.Proofs.Report.Streams

namespace QualityGate

open Text

/-! ### What the sorter writes -/

/-- What the sorter would change in a file: the file, what stands behind it in the two headers of the diff,
and the lines of the diff. -/
structure SortDiff where
  path : List Char
  old : List Char
  new : List Char
  hunks : List (List Char)

namespace SortDiff

/-- The header for the file as it is. -/
def oldHeader (diff : SortDiff) : List Char :=
  "--- ".toList ++ (diff.path ++ (":before".toList ++ diff.old))

/-- The header for the file as it would be. -/
def newHeader (diff : SortDiff) : List Char :=
  "+++ ".toList ++ (diff.path ++ (":after".toList ++ diff.new))

/-- The lines of the diff. -/
def lines (diff : SortDiff) : List (List Char) :=
  diff.oldHeader :: diff.newHeader :: diff.hunks

end SortDiff

/-- The error for a file. -/
def sortError (path : List Char) : List Char :=
  "ERROR: ".toList ++ (path ++ " Imports are incorrectly sorted and/or formatted.".toList)

/-- The path can be told from what stands behind it. -/
structure IsReadablePath (path : List Char) : Prop where
  trimmed : trim path = path
  noHeader : ¬ ":before".toList <:+: path
  noError : ¬ " Imports are incorrectly sorted".toList <:+: path

instance (path : List Char) : Decidable (IsReadablePath path) :=
  decidable_of_iff (trim path = path ∧ ¬ ":before".toList <:+: path ∧
      ¬ " Imports are incorrectly sorted".toList <:+: path)
    ⟨fun h => ⟨h.1, h.2.1, h.2.2⟩, fun h => ⟨h.trimmed, h.noHeader, h.noError⟩⟩

/-- The sorter fails, has a diff for each of the files in its output, and an error for each of them, in
any order, in its error stream. -/
structure ReportsUnsorted (answer : ToolAnswer) (diffs : List SortDiff) (errors : List (List Char)) :
    Prop where
  failed : answer.code ≠ some 0
  distinct : (diffs.map SortDiff.path).Nodup
  readable : ∀ diff ∈ diffs, IsReadablePath diff.path
  stdout : lines answer.stdout.toList = diffs.flatMap SortDiff.lines
  named : errors.Perm (diffs.map SortDiff.path)
  stderr : lines answer.stderr.toList = errors.map sortError

variable {diff : SortDiff} {diffs : List SortDiff} {errors : List (List Char)} {path : List Char}
  {answer : ToolAnswer} {tool : Tool} {runner : ToolRunner} {ctx : Context} {project : Path}

namespace Details

/-! ### What a line names -/

/-- The file that a line names when the blanks around it are cut. -/
def fileOfLine? (line : List Char) : Option (List Char) :=
  unsortedFile? (trim line)

theorem isUnbordered_before : IsUnbordered ":before".toList := by decide

theorem isUnbordered_sorted : IsUnbordered " Imports are incorrectly sorted".toList := by decide

/-- The first header of a diff names its file. -/
theorem fileOfLine?_oldHeader (h : IsReadablePath diff.path) :
    fileOfLine? diff.oldHeader = some diff.path := by
  have hfirst : "--- ".toList.head? = some '-' := by decide
  have hword : ":before".toList.getLast? = some 'e' := by decide
  have hlast : ("--- ".toList ++ diff.path ++ ":before".toList).getLast? = some 'e' := by
    rw [List.getLast?_append, hword, Option.some_or]
  have htrim : trim diff.oldHeader =
      "---".toList ++ (' ' :: diff.path ++ (":before".toList ++ trimEnd diff.old)) := by
    rw [trim, SortDiff.oldHeader, trimStart_append hfirst (by decide), ← List.append_assoc,
      ← List.append_assoc, trimEnd_append hlast (by decide)]
    simp only [List.append_assoc, List.cons_append]
    rfl
  -- the blank between the dashes and the path is in no occurrence of the word
  have hbefore : ¬ ":before".toList <:+: ' ' :: diff.path := by
    rw [List.infix_cons_iff, not_or]
    exact ⟨fun hprefix => absurd (List.cons_prefix_cons.1 hprefix).1 (by decide), h.noHeader⟩
  rw [fileOfLine?, htrim, unsortedFile?, after?_append, Option.bind_some,
    around?_append_word isUnbordered_before hbefore]
  exact congrArg some h.trimmed

/-- The second header of a diff names no file. -/
theorem fileOfLine?_newHeader (diff : SortDiff) : fileOfLine? diff.newHeader = none := by
  have hfirst : "+++ ".toList.head? = some '+' := by decide
  have hlast : "+++".toList.getLast? = some '+' := by decide
  have hsplit : "+++ ".toList = "+++".toList ++ [' '] := by decide
  -- the signs in front are no blanks, so trimming leaves them
  have htrim : ∃ rest, trim diff.newHeader = "+++".toList ++ rest := by
    refine ⟨trimEnd ([' '] ++ (diff.path ++ (":after".toList ++ diff.new))), ?_⟩
    rw [trim, SortDiff.newHeader, trimStart_append hfirst (by decide), hsplit, List.append_assoc,
      trimEnd_append hlast (by decide)]
  obtain ⟨rest, hrest⟩ := htrim
  rw [fileOfLine?, hrest]
  rfl

/-- The line of an error names its file. -/
theorem fileOfLine?_sortError (h : IsReadablePath path) : fileOfLine? (sortError path) = some path := by
  have hsplit : " Imports are incorrectly sorted and/or formatted.".toList =
      " Imports are incorrectly sorted".toList ++ " and/or formatted.".toList := by decide
  -- the line begins and ends in no blank
  have htrim : trim (sortError path) = sortError path := by
    have hfirst : "ERROR: ".toList.head? = some 'E' := by decide
    have hend : " Imports are incorrectly sorted and/or formatted.".toList.getLast? = some '.' := by
      decide
    have hlast : (sortError path).getLast? = some '.' := by
      unfold sortError
      rw [← List.append_assoc, List.getLast?_append, hend, Option.some_or]
    have hstart : trimStart (sortError path) = sortError path := trimStart_append hfirst (by decide) _
    have hcut := trimEnd_append hlast (by decide) []
    rw [List.append_nil, trimEnd_nil, List.append_nil] at hcut
    rw [trim, hstart, hcut]
  have hheader : after? "---".toList (sortError path) = none := by
    rw [after?_eq_none_iff]
    exact fun hprefix => absurd (List.cons_prefix_cons.1 hprefix).1 (by decide)
  rw [fileOfLine?, htrim, unsortedFile?, hheader, Option.bind_none]
  unfold sortError
  dsimp only
  rw [after?_append, hsplit]
  simp only [bind, Option.bind, around?_append_word isUnbordered_sorted h.noError, h.trimmed]
  rfl

/-! ### What the view lists -/

/-- The files that the lines of a diff name: that of the header, and whatever else reads as a file. -/
def filesOfDiff (diff : SortDiff) : List (List Char) :=
  diff.path :: diff.hunks.filterMap fileOfLine?

/-- The lines of diffs name the file of each diff, and what their bodies name. -/
theorem filterMap_diffs (h : ∀ diff ∈ diffs, IsReadablePath diff.path) :
    (diffs.flatMap SortDiff.lines).filterMap fileOfLine? = diffs.flatMap filesOfDiff := by
  induction diffs with
  | nil => rfl
  | cons diff rest ih =>
    obtain ⟨hdiff, hrest⟩ := List.forall_mem_cons.1 h
    rw [List.flatMap_cons, List.filterMap_append, ih hrest, SortDiff.lines,
      List.filterMap_cons_some (fileOfLine?_oldHeader hdiff),
      List.filterMap_cons_none (fileOfLine?_newHeader diff)]
    rfl

/-- The lines of errors name one file each. -/
theorem filterMap_errors (h : ∀ path ∈ errors, IsReadablePath path) :
    (errors.map sortError).filterMap fileOfLine? = errors := by
  induction errors with
  | nil => rfl
  | cons path rest ih =>
    obtain ⟨hpath, hrest⟩ := List.forall_mem_cons.1 h
    rw [List.map_cons, List.filterMap_cons_some (fileOfLine?_sortError hpath), ih hrest]

/-- How often diffs name a path: in their headers and in their bodies. -/
theorem count_filesOfDiff (diffs : List SortDiff) (path : List Char) :
    (diffs.flatMap filesOfDiff).count path =
      (diffs.map SortDiff.path).count path +
        ((diffs.flatMap SortDiff.hunks).filterMap fileOfLine?).count path := by
  induction diffs with
  | nil => rfl
  | cons diff rest ih =>
    simp only [List.flatMap_cons, List.map_cons, List.filterMap_append, List.count_append, filesOfDiff,
      List.count_cons, ih]
    omega

/-- The files of a sorter that fails are those that its lines name. -/
theorem files_isort (hcode : answer.code ≠ some 0) (min : Nat) :
    (parse Tool.isort.checkName (Tool.isort.evaluate answer min).details).files =
      some (((lines answer.stdout.toList).filterMap fileOfLine? ++
        (lines answer.stderr.toList).filterMap fileOfLine?).map String.ofList) := by
  have hisort : Tool.isort ≠ .coverage := nofun
  obtain ⟨-, hdetails⟩ := Tool.evaluate_of_failed hisort hcode rfl min
  have hheader : startsWith "Imports need sorting".toList
      (Tool.isort.evaluate answer min).details.toList = true := by
    rw [hdetails, startsWith_iff]
    exact List.IsPrefix.trans (by decide) (List.prefix_append _ _)
  have htaken := Tool.filterMap_bodyLines_evaluate (f := unsortedFile?) hisort hcode rfl min rfl (by decide)
  rw [parse]
  dsimp only
  rw [filesOf, if_neg (by decide), if_pos rfl, if_pos hheader, htaken]
  rfl

end Details

theorem value_runTool_of_ok (h : runner (Check.callOf tool ctx project) = .ok answer) :
    (Check.runTool tool runner ctx project).value =
      tool.evaluate answer ctx.config.general.minTestCoverage := by
  rw [Check.runTool, Traced.value_bind]
  simp only [Check.callWith, h]
  rfl

/-- If the sorter reports files as it does when it shows and checks, the check fails, and the view lists
each of the files once for its diff and once for its error, and once more for each line of a diff that reads
as if it named the file. -/
theorem unsorted_files_listed_twice (runner : ToolRunner) (ctx : Context) (project : Path)
    (answer : ToolAnswer) (diffs : List SortDiff) (errors : List (List Char))
    (hrun : runner ⟨"isort", "--check-only" :: "--diff" :: ctx.sourceDirs.map Path.text, project⟩ =
      .ok answer)
    (hreport : ReportsUnsorted answer diffs errors) :
    let result := (Check.runTool .isort runner ctx project).value
    result.status = .failed ∧
      ∃ files, (Details.parse result.name result.details).files = some files ∧
        files = (diffs.flatMap Details.filesOfDiff ++ errors).map String.ofList ∧
        ∀ diff ∈ diffs, files.count (String.ofList diff.path) =
          2 + ((diffs.flatMap SortDiff.hunks).filterMap Details.fileOfLine?).count diff.path := by
  intro result
  have hname : result.name = Tool.isort.checkName := Check.name_runTool .isort runner ctx project
  have hresult : result = Tool.isort.evaluate answer ctx.config.general.minTestCoverage :=
    value_runTool_of_ok hrun
  have herrors : ∀ path ∈ errors, IsReadablePath path := by
    intro path hpath
    obtain ⟨diff, hdiff, rfl⟩ := List.mem_map.1 (hreport.named.mem_iff.1 hpath)
    exact hreport.readable diff hdiff
  have hisort : Tool.isort ≠ .coverage := nofun
  obtain ⟨hfailed, -⟩ :=
    Tool.evaluate_of_failed hisort hreport.failed rfl ctx.config.general.minTestCoverage
  refine ⟨hresult ▸ hfailed, _, ?_, rfl, fun diff hdiff => ?_⟩
  · rw [hname, hresult, Details.files_isort hreport.failed, hreport.stdout, hreport.stderr,
      Details.filterMap_diffs hreport.readable, Details.filterMap_errors herrors]
  · -- the path stands once among the diffs and once among the errors
    have hpath : (diffs.map SortDiff.path).count diff.path = 1 :=
      List.count_eq_one_of_mem hreport.distinct (List.mem_map_of_mem hdiff)
    have herror : errors.count diff.path = 1 := (hreport.named.count_eq _).trans hpath
    rw [List.count_map_of_injective _ _ fun _ _ => String.ofList_injective, List.count_append,
      Details.count_filesOfDiff, hpath, herror]
    omega

/-- Two files, whose errors come in the other order; a line of one diff reads as if it named the other
file. -/
theorem unsorted_files_of_two_diffs :
    let diffs : List SortDiff :=
      [⟨"/p/a.py".toList, [], [], ["--- /p/b.py:before".toList]⟩, ⟨"/p/b.py".toList, [], [], []⟩]
    let errors := ["/p/b.py".toList, "/p/a.py".toList]
    let answer : ToolAnswer :=
      ⟨some 1, "--- /p/a.py:before\n+++ /p/a.py:after\n--- /p/b.py:before\n" ++
          "--- /p/b.py:before\n+++ /p/b.py:after\n",
        "ERROR: /p/b.py Imports are incorrectly sorted and/or formatted.\n" ++
          "ERROR: /p/a.py Imports are incorrectly sorted and/or formatted.\n"⟩
    let runner : ToolRunner := fun _ => .ok answer
    let ctx : Context := ⟨⟨"/p"⟩, [⟨""⟩], .standard, .empty⟩
    let result := (Check.runTool .isort runner ctx ⟨"/p"⟩).value
    runner ⟨"isort", ["--check-only", "--diff", ""], ⟨"/p"⟩⟩ = .ok answer ∧
      ReportsUnsorted answer diffs errors ∧ ∃ files,
      (Details.parse result.name result.details).files = some files ∧
        files.count "/p/a.py" = 2 ∧ files.count "/p/b.py" = 3 := by
  intro diffs errors answer runner ctx result
  have hreport : ReportsUnsorted answer diffs errors :=
    { failed := by decide
      distinct := by decide
      readable := by decide +kernel
      stdout := by decide +kernel
      named := by decide
      stderr := by decide +kernel }
  obtain ⟨-, files, hfiles, -, hcount⟩ :=
    unsorted_files_listed_twice runner ctx ⟨"/p"⟩ answer diffs errors rfl hreport
  obtain ⟨hfirst, hrest⟩ := List.forall_mem_cons.1 hcount
  have hsecond := List.forall_mem_singleton.1 hrest
  refine ⟨rfl, hreport, files, hfiles, ?_, ?_⟩
  · exact hfirst.trans (by decide +kernel)
  · exact hsecond.trans (by decide +kernel)

/-- One unsorted file is listed twice and not once. -/
theorem unsorted_file_not_listed_once :
    let diff : SortDiff :=
      ⟨"/p/a.py".toList, "\t2024".toList, "\t2025".toList,
        ["@@ -2 +1 @@".toList, "+import os".toList]⟩
    let answer : ToolAnswer :=
      ⟨some 1, "--- /p/a.py:before\t2024\n+++ /p/a.py:after\t2025\n@@ -2 +1 @@\n+import os\n",
        "ERROR: /p/a.py Imports are incorrectly sorted and/or formatted.\n"⟩
    let result := Tool.isort.evaluate answer 80
    ReportsUnsorted answer [diff] [diff.path] ∧ result.status = .failed ∧
      (Details.parse result.name result.details).files = some ["/p/a.py", "/p/a.py"] := by
  intro diff answer result
  refine ⟨?_, by decide +kernel, by decide +kernel⟩
  exact
    { failed := by decide
      distinct := by decide
      readable := by decide +kernel
      stdout := by decide +kernel
      named := by decide
      stderr := by decide +kernel }

end QualityGate
