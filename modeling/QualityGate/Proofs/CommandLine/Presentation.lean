/-
How results are shown does not change what a check command comes to.

The format of the output, the options and variables for colour and the terminal decide what is written to
the standard output, and nothing else.  Each part of the command, from saving the report up to the whole
run, leaves the same behind for two invocations that differ only in them (`SameOutcome`).

The report that is saved is the report that is written as JSON, so the saved file and the standard output
hold the same bytes (`presentation_keeps_outcome`).
-/
import QualityGate.Proofs.CommandLine.Verdict
import QualityGate.Proofs.Disk.Write

namespace QualityGate

/-! ### Outcomes -/

/-- The answers agree in everything but what is written to the standard output. -/
structure Answer.SameOutcome (x y : Answer) : Prop where
  exitCode : y.exitCode = x.exitCode
  stderr : y.stderr = x.stderr
  disk : y.disk = x.disk

namespace Answer.SameOutcome

variable {x y : Answer}

theorem refl (x : Answer) : x.SameOutcome x :=
  ⟨rfl, rfl, rfl⟩

theorem withOutput (h : x.SameOutcome y) (text text' : String) :
    (x.withOutput text).SameOutcome (y.withOutput text') :=
  ⟨h.exitCode, h.stderr, h.disk⟩

theorem withErrors (h : x.SameOutcome y) (text : String) :
    (x.withErrors text).SameOutcome (y.withErrors text) :=
  ⟨h.exitCode, congrArg (text ++ ·) h.stderr, h.disk⟩

end Answer.SameOutcome

namespace Invocation

/-- Two check commands that differ at most in how their results are shown. -/
structure SameTask (i : Invocation) (a : CheckArguments) (j : Invocation) (b : CheckArguments) :
    Prop where
  disk : j.disk = i.disk
  runner : j.runner = i.runner
  timestamp : j.timestamp = i.timestamp
  path : b.path = a.path
  json : b.json = a.json
  srcDirs : b.srcDirs = a.srcDirs
  autoCommit : b.autoCommit = a.autoCommit

variable {i j : Invocation} {a b : CheckArguments} {given : Option Path}

namespace SameTask

theorem fail (h : i.SameTask a j b) (cause : Failure) :
    (i.fail cause).SameOutcome (j.fail cause) :=
  ⟨rfl, rfl, h.disk⟩

theorem override (h : i.SameTask a j b) (config : Config) : b.override config = a.override config := by
  rw [CheckArguments.override, CheckArguments.override, h.srcDirs, h.autoCommit]

theorem project (h : i.SameTask a j b) : j.project b = i.project a := by
  rw [Invocation.project, Invocation.project, h.disk, h.path]

theorem configuration (h : i.SameTask a j b) (given : Option Path) (project : Path) :
    j.configuration given project = i.configuration given project := by
  rw [Invocation.configuration, Invocation.configuration, h.disk]

theorem saved (h : i.SameTask a j b) (s : RunSummary) (report : Report) :
    (i.saved a s report).SameOutcome (j.saved b s report) := by
  rw [Invocation.saved, Invocation.saved, h.json, h.disk]
  rcases a.json with - | path
  · exact .refl _
  · rcases hsave : report.save i.disk path with cause | disk
    · simp only [hsave]
      exact h.fail cause
    · simp only [hsave]
      exact ⟨rfl, rfl, rfl⟩

theorem check (h : i.SameTask a j b) (project : Path) (config : Config) :
    (i.check a project config).SameOutcome (j.check b project config) := by
  rw [Invocation.check, Invocation.check, h.disk, h.runner, h.timestamp]
  rcases (Pipeline.run ⟨project, config, some i.runner⟩ i.disk).value with cause | s
  · exact .refl _
  · exact (h.saved s _).withOutput _ _

theorem perform (h : i.SameTask a j b) (given : Option Path) :
    (i.perform given a).SameOutcome (j.perform given b) := by
  rw [Invocation.perform, Invocation.perform, h.project]
  rcases i.project a with cause | project
  · exact h.fail cause
  · simp only [h.configuration, h.override]
    rcases (i.configuration given project).1.config with cause | config
    · exact (h.fail cause).withErrors _
    · exact (h.check project _).withErrors _

end SameTask

/-! ### The report -/

/-- The command comes to the end of its run with the report, which is saved if it is to be. -/
def Reports (i : Invocation) (given : Option Path) (args : CheckArguments) (report : Report) : Prop :=
  ∃ project config s, i.project args = .ok project ∧
    (i.configuration given project).1.config = .ok config ∧
    (Pipeline.run ⟨project, args.override config, some i.runner⟩ i.disk).value = .ok s ∧
    report = .ofResults s.results project (args.override config).options i.timestamp ∧
    ∀ path, args.json = some path → ∃ disk, report.save i.disk path = .ok disk

/-- The report is the same one, however it is shown. -/
theorem SameTask.reports (h : i.SameTask a j b) {report : Report} (hreport : i.Reports given a report) :
    j.Reports given b report := by
  rw [Reports, h.project, h.runner, h.disk, h.timestamp, h.json]
  simp only [h.configuration, h.override]
  exact hreport

variable {report : Report}

theorem perform_of_reports (h : i.Reports given a report) :
    ∃ (s : RunSummary) (warnings : String), i.perform given a =
      ((i.saved a s report).withOutput (i.shown a s report)).withErrors warnings := by
  obtain ⟨project, config, s, hproject, hconfig, hrun, rfl, -⟩ := h
  refine ⟨s, (i.configuration given project).2, ?_⟩
  rw [perform]
  simp only [hproject, hconfig, check, hrun]

/-- Where JSON is asked for, the document is all that is written. -/
theorem stdout_perform_of_json (h : i.Reports given a report) (hjson : a.output = .json) :
    (i.perform given a).stdout = report.document := by
  obtain ⟨s, warnings, hperform⟩ := perform_of_reports h
  have hsaid : (i.saved a s report).stdout = "" := by
    rw [saved]
    rcases a.json with - | path
    · rfl
    · rcases hsave : report.save i.disk path with cause | disk
      · simp only [hsave]
        rfl
      · simp only [hsave, hjson]
  have hshown : i.shown a s report = report.document := by
    rw [shown, hjson]
  rw [hperform]
  show i.shown a s report ++ (i.saved a s report).stdout = _
  rw [hshown, hsaid, String.append_empty]

/-- The saved file holds the document. -/
theorem read_perform (h : i.Reports given a report) {path : Path} (hpath : a.json = some path) :
    (i.perform given a).disk.read path = .ok (Text.encode report.document.toList) := by
  obtain ⟨s, warnings, hperform⟩ := perform_of_reports h
  obtain ⟨-, -, -, -, -, -, -, hsaved⟩ := h
  obtain ⟨disk, hsave⟩ := hsaved path hpath
  have hdisk : (i.perform given a).disk = disk := by
    rw [hperform]
    show (i.saved a s report).disk = disk
    rw [saved, hpath]
    simp only [hsave]
  rw [hdisk]
  rcases hwrite : i.disk.write path (Text.encode report.document.toList) with cause | disk'
  · rw [Report.save, hwrite] at hsave
    cases hsave
  · rw [Report.save, hwrite] at hsave
    obtain rfl := Except.ok.inj hsave
    exact Disk.read_write hwrite

/-- Two check commands that differ at most in how their results are shown have the same exit code, leave
the same disk, and write the same to the error stream.  If they come to a report, the file in which it is
saved holds its document, and where JSON is asked for that document is all of the standard output. -/
theorem presentation_keeps_outcome (i j : Invocation) (given : Option Path) (a b : CheckArguments)
    (hi : Arguments.parse i.words i.configVariable = .ok ⟨given, some a⟩)
    (hj : Arguments.parse j.words j.configVariable = .ok ⟨given, some b⟩)
    (h : i.SameTask a j b) :
    i.run.SameOutcome j.run ∧
    ∀ report, i.Reports given a report →
      (∀ path, a.json = some path →
        i.run.disk.read path = .ok (Text.encode report.document.toList)) ∧
      (b.output = .json → j.run.stdout = report.document) := by
  have hrun : i.run = i.perform given a := by
    simp only [run, hi]
  have hrun' : j.run = j.perform given b := by
    simp only [run, hj]
  rw [hrun, hrun']
  refine ⟨h.perform given, fun report hreport => ⟨fun path => read_perform hreport, fun hjson => ?_⟩⟩
  exact stdout_perform_of_json (h.reports hreport) hjson

/-- The report is saved and shown in colour, or saved and written as JSON. -/
theorem outcome_of_coloured_and_json :
    let i := { bare with words := ["check", "--json", "/r.json", "--color"] }
    let j : Invocation :=
      { bare with
        words := ["check", "--no-color", "-o", "json", "--json=/r.json"]
        environment := [("NO_COLOR", "1")]
        terminal := true }
    let a : CheckArguments := ⟨none, .text, some ⟨"/r.json"⟩, none, false, true, false⟩
    let b : CheckArguments := ⟨none, .json, some ⟨"/r.json"⟩, none, false, false, true⟩
    (Arguments.parse i.words i.configVariable = .ok ⟨none, some a⟩ ∧
      Arguments.parse j.words j.configVariable = .ok ⟨none, some b⟩ ∧ i.SameTask a j b) ∧
    i.run.SameOutcome j.run ∧
    ∃ report, i.Reports none a report ∧
      i.run.disk.read ⟨"/r.json"⟩ = .ok (Text.encode report.document.toList) ∧
      j.run.stdout = report.document := by
  intro i j a b
  have hi : Arguments.parse i.words i.configVariable = .ok ⟨none, some a⟩ := by rfl
  have hj : Arguments.parse j.words j.configVariable = .ok ⟨none, some b⟩ := by rfl
  have h : i.SameTask a j b := ⟨rfl, rfl, rfl, rfl, rfl, rfl, rfl⟩
  obtain ⟨s, hrun, -⟩ := Pipeline.run_of_absolute (p := ⟨⟨"/"⟩, .standard, some fun _ => .error ""⟩)
    Disk.empty (by decide)
  have hreport : i.Reports none a (.ofResults s.results ⟨"/"⟩ (Config.options .standard) "") := by
    refine ⟨⟨"/"⟩, .standard, s, by decide, by decide, hrun, rfl, ?_⟩
    rintro path ⟨⟩
    exact ⟨_, rfl⟩
  obtain ⟨houtcome, hdocument⟩ := presentation_keeps_outcome i j none a b hi hj h
  obtain ⟨hsaved, hshown⟩ := hdocument _ hreport
  exact ⟨⟨hi, hj, h⟩, houtcome, _, hreport, hsaved _ rfl, hshown rfl⟩

end Invocation

end QualityGate
