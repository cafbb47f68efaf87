/-
Findings in a report.

The details of an analysis with findings are a header and one line for each finding, behind a dash;
those of one without are a single sentence.  The structured view of a report takes the lines apart
again.  It gives back the findings as they are shown, each once and in their order, whatever dashes
and blanks they start with or hold, as long as each is shown on one line that does not end in a blank
(`parse_details_aggregate`).
-/
import QualityGate.Proofs.Check.Analyzer
import QualityGate.Proofs.Text.Digit
import QualityGate.Report.Details

namespace QualityGate

open Text

namespace Finding

variable {f : Finding}

/-- The finding is shown on one line, which does not end in a blank. -/
structure IsShownInLine (f : Finding) : Prop where
  notMem : '\n' ∉ f.display.toList
  getLast?_not_blank : ∀ c, f.display.toList.getLast? = some c → isBlank c = false

instance (f : Finding) : Decidable f.IsShownInLine :=
  decidable_of_iff
    ('\n' ∉ f.display.toList ∧ f.display.toList.getLast?.all (fun c => !isBlank c) = true) <| by
    constructor
    · rintro ⟨hfeed, hlast⟩
      refine ⟨hfeed, fun c hc => ?_⟩
      rw [hc] at hlast
      simpa using hlast
    · rintro ⟨hfeed, hlast⟩
      refine ⟨hfeed, ?_⟩
      rcases hc : f.display.toList.getLast? with - | c
      · rfl
      · simpa using hlast c hc

/-- A finding is shown with a dash between its place and what is said, so something is shown. -/
theorem toList_display_ne_nil (f : Finding) : f.display.toList ≠ [] := by
  rw [display, String.toList_append, String.toList_append]
  exact List.append_ne_nil_of_left_ne_nil (List.append_ne_nil_of_right_ne_nil _ (List.cons_ne_nil _ _)) _

/-- The line of a finding in the details. -/
def bullet (f : Finding) : List Char :=
  '-' :: ' ' :: f.display.toList

theorem getLast?_bullet (f : Finding) : f.bullet.getLast? = f.display.toList.getLast? := by
  have hne := toList_display_ne_nil f
  rw [bullet, List.getLast?_cons_of_ne_nil (List.cons_ne_nil _ _), List.getLast?_cons_of_ne_nil hne]

/-- A finding that is shown in one line makes one line of the details. -/
theorem IsShownInLine.isLine (h : f.IsShownInLine) : IsLine f.bullet where
  ne_nil := List.cons_ne_nil _ _
  notMem := by
    have hdash : '\n' ≠ '-' := by decide
    have hblank : '\n' ≠ ' ' := by decide
    simp only [bullet, List.mem_cons, hdash, hblank, false_or]
    exact h.notMem
  getLast?_ne := by
    rw [getLast?_bullet]
    intro hlast
    exact absurd (h.getLast?_not_blank _ hlast) (by decide)

/-- Trimming leaves the line of a finding as it is. -/
theorem IsShownInLine.trim_bullet (h : f.IsShownInLine) : trim f.bullet = f.bullet := by
  apply trim_eq_self
  -- it begins with the dash
  · intro c hc
    obtain rfl := Option.some.inj hc
    rfl
  · rw [getLast?_bullet]
    exact h.getLast?_not_blank

/-- Behind its bullet stands the finding as it is shown. -/
theorem after?_bullet (f : Finding) : after? ['-', ' '] f.bullet = some f.display.toList := by
  rw [bullet, after?, if_pos rfl, after?, if_pos rfl, after?_nil]

end Finding

/-! ### The lines of an aggregate -/

variable {findings : List Finding}

theorem toList_details_aggregate (name header pass : String) (findings : List Finding) :
    (aggregate name header pass findings).details.toList =
      (if findings = [] then pass else header).toList ++
        (findings.map Finding.bullet).flatMap fun line => '\n' :: line := by
  cases findings with
  | nil => exact (List.append_nil _).symm
  | cons f rest =>
    rw [if_neg (List.cons_ne_nil f rest)]
    show (header ++ String.join _).toList = _
    rw [String.toList_append, String.toList_join, List.flatMap_map, List.flatMap_map]
    congr 2
    funext g
    exact String.toList_append

/-- The details of an aggregate are read as its first line and the lines of its findings. -/
theorem lines_aggregate {name header pass : String} (hheader : IsLine header.toList)
    (hpass : IsLine pass.toList) (h : ∀ f ∈ findings, f.IsShownInLine) :
    lines (aggregate name header pass findings).details.toList =
      (if findings = [] then pass else header).toList :: findings.map Finding.bullet := by
  rw [toList_details_aggregate]
  apply lines_append_flatMap
  · split
    · exact hpass
    · exact hheader
  · exact List.forall_mem_map.2 fun f hf => (h f hf).isLine

/-- Below the first line stand the bullets, trimmed or not. -/
theorem bodyLines_aggregate {name header pass : String} (hheader : IsLine header.toList)
    (hpass : IsLine pass.toList) (h : ∀ f ∈ findings, f.IsShownInLine) :
    Details.bodyLines (aggregate name header pass findings).details.toList =
      findings.map Finding.bullet := by
  have htrim : (findings.map Finding.bullet).map trim = findings.map Finding.bullet := by
    rw [List.map_map]
    exact List.map_congr_left fun f hf => (h f hf).trim_bullet
  rw [Details.bodyLines, lines_aggregate hheader hpass h, List.drop_one, List.tail_cons, htrim,
    List.filter_eq_self]
  exact List.forall_mem_map.2 fun f _ => decide_eq_true (List.cons_ne_nil _ _)

/-! ### The analyzers -/

namespace Analyzer

/-- A line that states a limit. -/
theorem isLine_limit {front back : String} (limit : Nat) (hfront : IsInLine front.toList)
    (hback : IsInLine back.toList) (hne : front.toList ≠ []) :
    IsLine (front ++ limit.repr ++ back).toList := by
  rw [String.toList_append, String.toList_append]
  apply IsInLine.isLine
  · exact isInLine_append (isInLine_append hfront (isInLine_repr limit)) hback
  · exact List.append_ne_nil_of_left_ne_nil (List.append_ne_nil_of_left_ne_nil hne _) _

/-- The sentence above findings is one line. -/
theorem isLine_header (a : Analyzer) : IsLine a.header.toList := by
  cases a with
  | naming => exact IsInLine.isLine (by decide) (by decide)
  | fileLength limit => exact isLine_limit limit (by decide) (by decide) (by decide)
  | functionLength limit => exact isLine_limit limit (by decide) (by decide) (by decide)
  | docstring _ =>
    show IsLine "Missing docstrings found:".toList
    exact IsInLine.isLine (by decide) (by decide)

/-- So is the sentence for none. -/
theorem isLine_pass (a : Analyzer) : IsLine a.pass.toList := by
  cases a with
  | naming => exact IsInLine.isLine (by decide) (by decide)
  | fileLength limit => exact isLine_limit limit (by decide) (by decide) (by decide)
  | functionLength limit => exact isLine_limit limit (by decide) (by decide) (by decide)
  | docstring _ =>
    show IsLine "All modules, classes, and functions have docstrings.".toList
    exact IsInLine.isLine (by decide) (by decide)

/-- The issues of an analyzer are what stands behind the dashes of its details. -/
theorem issuesOf_name (a : Analyzer) (body : List (List Char)) :
    Details.issuesOf a.name body = body.filterMap (after? ['-', ' ']) := by
  cases a <;> rfl

/-- No files are read for an analyzer. -/
theorem filesOf_name (a : Analyzer) (raw : List Char) : Details.filesOf a.name raw = none := by
  cases a <;> rfl

theorem name_ne_coverage (a : Analyzer) : a.name ≠ Tool.coverage.checkName := by
  have hnaming : CheckName.naming ≠ Tool.coverage.checkName := by decide
  have hfile : CheckName.fileLength ≠ Tool.coverage.checkName := by decide
  have hfunction : CheckName.functionLength ≠ Tool.coverage.checkName := by decide
  have hdocstring : CheckName.docstring ≠ Tool.coverage.checkName := by decide
  cases a <;> assumption

end Analyzer

/-! ### What the view gives back -/

/-- A check passes if and only if it has no finding. -/
theorem status_aggregate (name header pass : String) (findings : List Finding) :
    (aggregate name header pass findings).status = .passed ↔ findings = [] := by
  cases findings with
  | nil => exact ⟨fun _ => rfl, fun _ => rfl⟩
  | cons f rest => exact ⟨nofun, nofun⟩

/-- What is read from the bullets is what the findings show. -/
theorem issues_bullets (findings : List Finding) :
    ((findings.map Finding.bullet).filterMap (after? ['-', ' '])).map String.ofList =
      findings.map Finding.display := by
  rw [List.filterMap_map, List.map_filterMap, ← List.filterMap_eq_map]
  congr 1
  funext f
  show (after? ['-', ' '] f.bullet).map String.ofList = some f.display
  rw [Finding.after?_bullet]
  exact congrArg some (String.ofList_toList)

/-- An analysis passes exactly if there are no findings, and the view of its details gives back the
findings as they are shown, each once and in their order, below the header or the sentence for none,
with no files and no coverage. -/
theorem parse_details_aggregate (a : Analyzer) (findings : List Finding)
    (h : ∀ f ∈ findings, f.IsShownInLine) :
    a.check = Check.ofSources a.name a.header a.pass a.analyse ∧
      ((aggregate a.name a.header a.pass findings).status = .passed ↔ findings = []) ∧
      Details.parse a.name (aggregate a.name a.header a.pass findings).details =
        ⟨if findings = [] then a.pass else a.header, findings.map Finding.display, none, none⟩ := by
  refine ⟨a.check_eq_ofSources, status_aggregate _ _ _ findings, ?_⟩
  rw [Details.parse, bodyLines_aggregate a.isLine_header a.isLine_pass h,
    lines_aggregate a.isLine_header a.isLine_pass h, a.issuesOf_name, issues_bullets, a.filesOf_name,
    if_neg a.name_ne_coverage]
  congr 1
  exact String.ofList_toList

/-- Dashes in a path and in what is said are no line of their own. -/
theorem parse_details_of_dashes :
    (∀ f ∈ [Finding.ofMessage ⟨"- a - b.py"⟩ (some 3) "- c - d", .syntaxError ⟨" -"⟩ "-"],
      f.IsShownInLine) ∧
      Details.parse CheckName.naming (aggregate CheckName.naming Analyzer.naming.header
        Analyzer.naming.pass
        [.ofMessage ⟨"- a - b.py"⟩ (some 3) "- c - d", .syntaxError ⟨" -"⟩ "-"]).details =
        ⟨"Naming convention issues found:",
          ["- a - b.py:3 - - c - d", " - - Syntax error: -"], none, none⟩ := by
  have h : ∀ f ∈ [Finding.ofMessage ⟨"- a - b.py"⟩ (some 3) "- c - d", .syntaxError ⟨" -"⟩ "-"],
      f.IsShownInLine := by decide
  exact ⟨h, (parse_details_aggregate .naming _ h).2.2⟩

end QualityGate
