/-
One verdict, and one count of each status, wherever a run is shown.

The verdict over the results of a run is reduced in several places: in the summary of the run, in the
tally, in the report, in the last line on the console, and in the exit code.  All of them say whether a
result failed, and all counts are those of the tally (`consumers_agree`).
-/
import QualityGate.CommandLine.Run
import QualityGate.Proofs.Gate.Pipeline
import QualityGate.Proofs.Report.Document
import QualityGate.Proofs.Report.Summary

namespace QualityGate

/-! ### The exit code -/

namespace Invocation

/-- The command comes to the end of its run, and a report that it had to save was saved. -/
def Completes (i : Invocation) (given : Option Path) (args : CheckArguments) (s : RunSummary) :
    Prop :=
  ∃ project config, i.project args = .ok project ∧
    (i.configuration given project).1.config = .ok config ∧
    (Pipeline.run ⟨project, args.override config, some i.runner⟩ i.disk).value = .ok s ∧
    ∀ path, args.json = some path → ∃ disk,
      (Report.ofResults s.results project (args.override config).options i.timestamp).save i.disk
        path = .ok disk

variable {i : Invocation} {given : Option Path} {args : CheckArguments} {s : RunSummary}

theorem exitCode_saved {report : Report}
    (h : ∀ path, args.json = some path → ∃ disk, report.save i.disk path = .ok disk) :
    (i.saved args s report).exitCode = exitCodeOf s.passed := by
  rw [saved]
  rcases hjson : args.json with - | path
  · rfl
  · obtain ⟨disk, hsave⟩ := h path hjson
    simp only [hsave]

theorem exitCode_perform (h : i.Completes given args s) :
    (i.perform given args).exitCode = exitCodeOf (verdict s.results) := by
  obtain ⟨project, config, hproject, hconfig, hrun, hsaved⟩ := h
  have hcheck : (i.check args project (args.override config)).exitCode = exitCodeOf s.passed := by
    rw [check]
    simp only [hrun]
    exact exitCode_saved hsaved
  rw [← Pipeline.passed_of_runChain hrun, ← hcheck, perform]
  simp only [hproject, hconfig]
  rfl

end Invocation

namespace Invocation

/-- The check command in the root of a disk without entries. -/
def bare : Invocation :=
  ⟨["check"], [], Disk.empty, fun _ => .error "", false, ""⟩

/-- No option is given. -/
def bareArguments : CheckArguments :=
  ⟨none, .text, none, none, false, false, false⟩

end Invocation

/-! ### Agreement -/

theorem verdict_eq_true_iff {results : List CheckResult} :
    verdict results = true ↔ ∀ r ∈ results, r.status ≠ .failed := by
  simp [verdict]

theorem exitCodeOf_eq_zero_iff {passed : Bool} : exitCodeOf passed = 0 ↔ passed = true := by
  cases passed <;> decide

theorem exitCodeOf_eq_one_iff {passed : Bool} : exitCodeOf passed = 1 ↔ passed = false := by
  cases passed <;> decide

theorem ofVerdict_eq_passed_iff {passed : Bool} : Status.ofVerdict passed = .passed ↔ passed = true := by
  cases passed <;> decide

/-- Wherever the results of a run are shown, the verdict is whether one of them failed, and the counts
are those of the tally, which add up to their number. -/
theorem consumers_agree (results : List CheckResult) (project : Path)
    (configuration : List (String × String)) (timestamp : String) (colour : Bool) :
    let passes : Prop := ∀ r ∈ results, r.status ≠ .failed
    let counts := Tally.ofResults results
    let report := Report.ofResults results project configuration timestamp
    let text := (Summary.text colour results).toList
    ((∀ (p : Pipeline) d, (∃ chain s, (p.runChain d chain).value = .ok s ∧ s.results = results) ∧
        ∀ chain s, (p.runChain d chain).value = .ok s → s.results = results →
          ((s.passed = true ↔ passes) ∧ s.counts = counts)) ∧
      (∀ (i : Invocation) given args s, i.Completes given args s → s.results = results →
        (((i.perform given args).exitCode = 0 ↔ passes) ∧
          ((i.perform given args).exitCode = 1 ↔ ¬ passes)))) ∧
    ((counts.failed = 0 ↔ passes) ∧
      (report.summary.status = .passed ↔ passes) ∧
      ((Text.lines text).getLast? =
        some ((Span.styled .pass "✓ All quality checks passed!").paint colour).toList ↔ passes)) ∧
    (Summary.totals? text = some (counts, results.length) ∧
      (∃ reading, Reading.ofText? report.document = some reading ∧
        reading.summary.tally = counts ∧ reading.summary.total = results.length ∧
        reading.checks.length = results.length ∧ (reading.summary.status = .passed ↔ passes)) ∧
      counts.passed + counts.failed + counts.skipped = results.length) := by
  intro passes counts report text
  have hverdict : verdict results = true ↔ passes := verdict_eq_true_iff
  have htotal : counts.total = results.length := total_ofResults results
  refine ⟨⟨?_, ?_⟩, ⟨?_, ?_, ?_⟩, ?_, ?_, htotal⟩
  · -- runs of chains
    intro p d
    refine ⟨p.exists_runChain_results d results, ?_⟩
    rintro chain s hrun rfl
    rw [Pipeline.passed_of_runChain hrun]
    exact ⟨hverdict, rfl⟩
  · -- commands
    rintro i given args s hcompletes rfl
    rw [Invocation.exitCode_perform hcompletes, exitCodeOf_eq_zero_iff, exitCodeOf_eq_one_iff,
      ← hverdict, Bool.not_eq_true]
    exact ⟨Iff.rfl, Iff.rfl⟩
  · rw [← hverdict]
    exact failed_ofResults_eq_zero_iff results
  · rw [← hverdict]
    exact ofVerdict_eq_passed_iff
  · -- the last line on the console
    rw [← hverdict, ← Summary.verdictLine_eq_iff, Summary.getLast?_lines_text]
    exact Option.some_inj
  · -- the counts on the console
    rw [← htotal]
    exact Summary.totals?_text colour results
  · -- the counts in the document
    refine ⟨_, ofText?_document results project configuration timestamp, rfl, rfl, ?_, ?_⟩
    · exact List.length_map EntryReading.ofResult
    · rw [← hverdict]
      exact ofVerdict_eq_passed_iff

/-- A command that comes to the end of its run ends with the verdict over its results. -/
theorem consumers_agree_on_bare_invocation :
    ∃ s, Invocation.bare.Completes none Invocation.bareArguments s ∧
      ((Invocation.bare.perform none Invocation.bareArguments).exitCode = 0 ↔
        ∀ r ∈ s.results, r.status ≠ .failed) := by
  obtain ⟨s, hrun, -⟩ := Pipeline.run_of_absolute (p := ⟨⟨"/"⟩, .standard, some fun _ => .error ""⟩)
    Disk.empty (by decide)
  have hcompletes : Invocation.bare.Completes none Invocation.bareArguments s :=
    ⟨⟨"/"⟩, .standard, by decide, by decide, hrun, nofun⟩
  exact ⟨s, hcompletes,
    ((consumers_agree s.results ⟨"/"⟩ [] "" false).1.2 _ _ _ s hcompletes rfl).1⟩

end QualityGate
