/-
What a tool wrote, in the details of its result.

The details of a tool that fails are a header, what the tool wrote to its output, and behind a line of
their own its errors.  The view reads them as trimmed lines that are not empty, and to those it does not
matter how the parts are put together: they are the lines of the output and then those of the errors
(`bodyLines_evaluate`), whatever either ends in.

So the files that a formatter says it would change are all listed, each once, whichever of the two it
wrote them to (`unformatted_files_read_back`).
-/
import QualityGate.Proofs.Text.Occurrence
import QualityGate.Proofs.Text.Trim
import QualityGate.Report.Details

namespace QualityGate

open Text

namespace Tool

variable {tool : Tool} {answer : ToolAnswer}

/-! ### The details of a tool that fails -/

/-- The line before the errors. -/
def errorsLine : List Char :=
  "Errors:".toList

/-- What stands behind the output: nothing if there are no errors. -/
def errorPart (answer : ToolAnswer) : List Char :=
  if answer.stderr = "" then [] else '\n' :: (errorsLine ++ '\n' :: answer.stderr.toList)

/-- The errors of a tool stand behind its details. -/
theorem toList_withErrors (details : String) (answer : ToolAnswer) :
    (withErrors details answer).toList = details.toList ++ errorPart answer := by
  rw [withErrors, errorPart]
  split
  · exact (List.append_nil _).symm
  · rw [String.toList_append, String.toList_append, List.append_assoc]
    rfl

/-- A tool that ends with another code than 0, or by a signal, fails; unless it is judged otherwise or
broke down, its details are the header and what it wrote. -/
theorem evaluate_of_failed (htool : tool ≠ .coverage) (hcode : answer.code ≠ some 0)
    (hup : tool.brokeDown answer = false) (min : Nat) :
    (tool.evaluate answer min).status = .failed ∧
      (tool.evaluate answer min).details.toList =
        tool.sentences.2.toList ++ '\n' :: (answer.stdout.toList ++ errorPart answer) := by
  have hfailed : answer.succeeded = false := decide_eq_false hcode
  have hup' : ¬ tool.brokeDown answer = true := by
    rw [hup]
    exact Bool.false_ne_true
  -- a nonzero code that is no breakdown takes the branch of findings
  rw [evaluate, if_neg htool, hfailed, if_neg Bool.false_ne_true, if_neg hup']
  refine ⟨rfl, ?_⟩
  rw [toList_withErrors, String.toList_append, String.toList_append, List.append_assoc, List.append_assoc]
  rfl

/-! ### Its lines -/

/-- The errors add their heading and their own lines. -/
theorem contentLines_errorPart (s : List Char) (answer : ToolAnswer) :
    contentLines (s ++ errorPart answer) = contentLines s ++
      if answer.stderr = "" then [] else errorsLine :: contentLines answer.stderr.toList := by
  have hline : contentLines errorsLine = [errorsLine] := by decide
  rw [errorPart]
  split
  · rw [List.append_nil, List.append_nil]
  · rw [contentLines_append_cons, contentLines_append_cons, hline]
    rfl

theorem notMem_header (tool : Tool) : '\n' ∉ tool.sentences.2.toList := by
  cases tool <;> decide

/-- The view reads the lines of the output, and behind those of the errors a line that announces them. -/
theorem bodyLines_evaluate (htool : tool ≠ .coverage) (hcode : answer.code ≠ some 0)
    (hup : tool.brokeDown answer = false) (min : Nat) :
    Details.bodyLines (tool.evaluate answer min).details.toList =
      contentLines answer.stdout.toList ++
        if answer.stderr = "" then [] else errorsLine :: contentLines answer.stderr.toList := by
  rw [(evaluate_of_failed htool hcode hup min).2, Details.bodyLines, lines_append_cons,
    splitOn_of_notMem tool.notMem_header]
  exact contentLines_errorPart _ answer

/-- A rule that takes nothing from the line that announces errors takes from the lines of the output and
then from those of the errors. -/
theorem filterMap_bodyLines_evaluate {α : Type} {f : List Char → Option α} (htool : tool ≠ .coverage)
    (hcode : answer.code ≠ some 0) (hup : tool.brokeDown answer = false) (min : Nat) (hnil : f [] = none)
    (herrors : f errorsLine = none) :
    (Details.bodyLines (tool.evaluate answer min).details.toList).filterMap f =
      (lines answer.stdout.toList).filterMap (fun line => f (trim line)) ++
        (lines answer.stderr.toList).filterMap fun line => f (trim line) := by
  rw [bodyLines_evaluate htool hcode hup min, List.filterMap_append, filterMap_contentLines hnil]
  congr 1
  split
  · next hempty =>
    rw [hempty]
    rfl
  -- the heading above the errors is read as nothing
  · rw [List.filterMap_cons, herrors, filterMap_contentLines hnil]

/-! ### Files that a formatter would change -/

/-- What stands behind the word in each trimmed line that starts with it. -/
def reformatted (stream : String) : List String :=
  (lines stream.toList).filterMap fun line =>
    (after? "would reformat ".toList (trim line)).map String.ofList

/-- If a formatter ends with another code than 0, or by a signal, and some line that it wrote names a file
that it would change, then the view of its result has as files what the lines name, those of the output
and then those of the errors, all of them and nothing else. -/
theorem unformatted_files_read_back (answer : ToolAnswer) (min : Nat) (hcode : answer.code ≠ some 0)
    (hnamed : ∃ line ∈ lines answer.stdout.toList ++ lines answer.stderr.toList,
      "would reformat ".toList <+: trim line) :
    (black.evaluate answer min).status = .failed ∧
      (Details.parse black.checkName (black.evaluate answer min).details).files =
        some (reformatted answer.stdout ++ reformatted answer.stderr) := by
  have hblack : black ≠ coverage := nofun
  obtain ⟨hfailed, hdetails⟩ := evaluate_of_failed hblack hcode rfl min
  have htaken := filterMap_bodyLines_evaluate (f := after? "would reformat ".toList) hblack hcode rfl min
    rfl (by decide)
  -- some line names a file, so the files are not taken from the lines as they stand
  have hne : (Details.bodyLines (black.evaluate answer min).details.toList).filterMap
      (after? "would reformat ".toList) ≠ [] := by
    obtain ⟨line, hline, rest, hrest⟩ := hnamed
    have hafter := after?_eq_some_iff.2 hrest.symm
    rw [htaken, ← List.filterMap_append]
    exact List.ne_nil_of_mem (List.mem_filterMap.2 ⟨line, hline, hafter⟩)
  have hheader : startsWith "Files need formatting".toList
      (black.evaluate answer min).details.toList = true := by
    rw [hdetails, startsWith_iff]
    exact List.IsPrefix.trans (by decide) (List.prefix_append _ _)
  refine ⟨hfailed, ?_⟩
  rw [Details.parse]
  dsimp only
  rw [Details.filesOf, if_pos rfl, if_pos hheader, Details.unformattedFiles]
  split
  · next hnone => exact absurd hnone hne
  · rw [htaken, Option.map_some, List.map_append, List.map_filterMap, List.map_filterMap]
    rfl

/-- The seams: the output ends in a carriage return and in no line feed, and the errors have a line of
their own that announces errors, and end in blanks. -/
theorem unformatted_files_of_open_streams :
    let answer : ToolAnswer :=
      ⟨none, "would reformat a b.py\r\nErrors:\n\twould reformat c.py\r",
        "\nErrors:\r\nwould reformat would reformat d.py \t"⟩
    answer.code ≠ some 0 ∧
      (∃ line ∈ lines answer.stdout.toList ++ lines answer.stderr.toList,
        "would reformat ".toList <+: trim line) ∧
      (Details.parse black.checkName (black.evaluate answer 80).details).files =
        some ["a b.py", "c.py", "would reformat d.py"] := by
  intro answer
  have hcode : answer.code ≠ some 0 := nofun
  have hnamed : ∃ line ∈ lines answer.stdout.toList ++ lines answer.stderr.toList,
      "would reformat ".toList <+: trim line := by decide +kernel
  refine ⟨hcode, hnamed, ?_⟩
  rw [(unformatted_files_read_back answer 80 hcode hnamed).2]
  decide +kernel

end Tool

end QualityGate
