/-
Declared source directories that are not there.

A check is given the directories that are there; it does not look at what the configuration declares
(`Check.IgnoresDeclared`).  So two runs do the same as soon as the same directories are there, whatever
else is declared (`runBehind_declaring`).

What is declared and not there shows in warnings only.  These come first, and nothing that a check says
can be taken for one of them (`Traced.LeavesDirs`), so they can be told from the rest of a run
(`missing_directories_only_warned`).
-/
import QualityGate.Proofs.Check.Builtin
import QualityGate.Proofs.Text.Occurrence

namespace QualityGate

/-- The configuration with other source directories declared. -/
def Config.declaring (c : Config) (dirs : List String) : Config :=
  { c with paths := { c.paths with srcDirs := dirs } }

namespace Context

/-- The same, except that the configuration declares other source directories. -/
def declaring (ctx : Context) (dirs : List String) : Context :=
  { ctx with config := ctx.config.declaring dirs }

end Context

/-! ### What checks look at -/

namespace Check

/-- The check does the same whatever source directories the configuration declares. -/
def IgnoresDeclared (check : Check) : Prop :=
  ∀ ctx dirs, check.run (ctx.declaring dirs) = check.run ctx

variable {name header pass : String}

theorem ignoresDeclared_ofProject {run : Context → Path → Traced CheckResult}
    (h : ∀ ctx dirs project, run (ctx.declaring dirs) project = run ctx project) :
    (ofProject name run).IgnoresDeclared := by
  intro ctx dirs
  have hproject : (ctx.declaring dirs).requireProject = ctx.requireProject := rfl
  simp only [ofProject, hproject, h]

/-- A check of sources ignores what is declared, since the sources are those of the directories it is
given. -/
theorem ignoresDeclared_ofSources {analyse : Context → Path → List Finding}
    (h : ∀ ctx dirs path, analyse (ctx.declaring dirs) path = analyse ctx path) :
    (ofSources name header pass analyse).IgnoresDeclared := by
  apply ignoresDeclared_ofProject
  intro ctx dirs _
  have hsources : (ctx.declaring dirs).sources = ctx.sources := rfl
  have hanalyse : analyse (ctx.declaring dirs) = analyse ctx := funext (h ctx dirs)
  rw [hsources, hanalyse]

theorem ignoresDeclared_analyzer (a : Analyzer) : a.check.IgnoresDeclared := by
  rw [a.check_eq_ofSources]
  apply ignoresDeclared_ofSources
  intro ctx dirs path
  cases a <;> rfl

theorem ignoresDeclared_wrapper (w : Wrapper) (runner : Option ToolRunner) :
    (w.check runner).IgnoresDeclared := by
  cases w with
  | tool tool =>
    apply ignoresDeclared_ofProject
    intro ctx dirs project
    rfl
  | packages =>
    apply ignoresDeclared_ofProject
    intro ctx dirs project
    rfl

end Check

/-- Every built-in check ignores what is declared. -/
theorem Builtin.ignoresDeclared (b : Builtin) : b.check.IgnoresDeclared := by
  cases b with
  | wrapper w runner => exact Check.ignoresDeclared_wrapper w runner
  | analyzer a => exact Check.ignoresDeclared_analyzer a

/-- A chain of such checks does the same whatever source directories the configuration declares. -/
theorem Chain.execute_declaring {chain : Chain} (h : ∀ check ∈ chain, check.IgnoresDeclared)
    (ctx : Context) (dirs : List String) :
    chain.execute (ctx.declaring dirs) = chain.execute ctx := by
  induction chain with
  | nil => rfl
  | cons check rest ih =>
    obtain ⟨hcheck, hrest⟩ := List.forall_mem_cons.1 h
    rw [execute, execute, hcheck ctx dirs, ih hrest]

/-! ### Warnings about source directories -/

/-- The words before a declared source directory that is not there. -/
def missingStart : String :=
  "source directory not found, skipping: "

/-- What is said of a declared source directory that is not there. -/
def missingDir (path : Path) : String :=
  missingStart ++ path.text

/-- What is said if no declared source directory is there. -/
def noDirs : String :=
  "no source directories found to check"

/-- A warning about the declared source directories. -/
def Event.isAboutDirs : Event → Bool
  | .warning text =>
    Text.startsWith missingStart.toList text.toList || text = noDirs
  | _ => false

theorem Event.isAboutDirs_missingDir (path : Path) :
    (Event.warning (missingDir path)).isAboutDirs = true := by
  rw [isAboutDirs, missingDir, String.toList_append, Bool.or_eq_true, Text.startsWith_iff]
  left
  exact List.prefix_append missingStart.toList path.text.toList

theorem Event.isAboutDirs_noDirs : (Event.warning noDirs).isAboutDirs = true := by
  rw [isAboutDirs, Bool.or_eq_true, decide_eq_true_eq]
  exact .inr rfl

/-- A warning with another beginning is about something else. -/
theorem Event.not_isAboutDirs {start : String} (hlength : 2 ≤ start.toList.length)
    (hmissing : start.toList.take 2 ≠ ['s', 'o']) (hnone : start.toList.take 2 ≠ ['n', 'o'])
    (rest : String) : (Event.warning (start ++ rest)).isAboutDirs = false := by
  have htake : (start ++ rest).toList.take 2 = start.toList.take 2 := by
    rw [String.toList_append, List.take_append_of_le_length hlength]
  rw [isAboutDirs, Bool.or_eq_false_iff, decide_eq_false_iff_not, ← Bool.not_eq_true,
    Text.startsWith_iff]
  constructor
  · rintro ⟨more, hmore⟩
    rw [← hmore] at htake
    exact hmissing htake.symm
  · intro heq
    rw [heq] at htake
    exact hnone htake.symm

namespace Traced

variable {α β : Type}

/-- Nothing is said about the declared source directories. -/
def LeavesDirs (t : Traced α) : Prop :=
  ∀ e ∈ t.events, e.isAboutDirs = false

theorem leavesDirs_pure (a : α) : (Traced.pure a).LeavesDirs :=
  List.forall_mem_nil _

/-- A computation leaves the warnings about directories to others if its parts do. -/
theorem leavesDirs_bind {t : Traced α} {f : α → Traced β} (ht : t.LeavesDirs)
    (hf : ∀ a, (f a).LeavesDirs) : (t >>= f).LeavesDirs :=
  List.forall_mem_append.2 ⟨ht, hf t.value⟩

theorem leavesDirs_tell_info (text : String) : (tell (.info text)).LeavesDirs :=
  List.forall_mem_singleton.2 rfl

theorem leavesDirs_warn {texts : List String}
    (h : ∀ text ∈ texts, (Event.warning text).isAboutDirs = false) : (warn texts).LeavesDirs :=
  List.forall_mem_map.2 h

end Traced

open Traced

/-- What a walk could not follow is no declared directory. -/
theorem not_isAboutDirs_of_warning? {met : Encounter} {text : String} (h : met.warning? = some text) :
    (Event.warning text).isAboutDirs = false := by
  cases met with
  | file path => cases h
  | loop path above =>
    obtain rfl := Option.some.inj h
    simp only [String.append_assoc]
    exact Event.not_isAboutDirs (by decide) (by decide) (by decide) _
  | fault path cause =>
    obtain rfl := Option.some.inj h
    simp only [String.append_assoc]
    exact Event.not_isAboutDirs (by decide) (by decide) (by decide) _

/-- A warning of a listing is about a loop or a fault, not about a source directory. -/
theorem not_isAboutDirs_of_mem_list {ctx : Context} {accept : Path → Bool} {root : Path} {text : String}
    (h : text ∈ (ctx.list accept root).warnings) : (Event.warning text).isAboutDirs = false := by
  obtain ⟨met, -, hmet⟩ := List.mem_filterMap.1 h
  exact not_isAboutDirs_of_warning? hmet

theorem leavesDirs_sources (ctx : Context) : ctx.sources.LeavesDirs := by
  refine leavesDirs_bind (leavesDirs_warn ?_) fun _ => leavesDirs_pure _
  intro text htext
  obtain ⟨listing, hlisting, htext⟩ := List.mem_flatMap.1 htext
  obtain ⟨root, -, rfl⟩ := List.mem_map.1 hlisting
  exact not_isAboutDirs_of_mem_list htext

namespace Check

variable {name : String} {run : Context → Path → Traced CheckResult}

theorem leavesDirs_ofProject (h : ∀ ctx project, (run ctx project).LeavesDirs) (ctx : Context) :
    ((ofProject name run).run ctx).LeavesDirs := by
  rw [ofProject]
  dsimp only
  split
  · exact leavesDirs_pure _
  · exact leavesDirs_bind (h ctx _) fun _ => leavesDirs_pure _

theorem leavesDirs_callWith (runner : ToolRunner) (call : ToolCall) :
    (callWith runner call).LeavesDirs :=
  List.forall_mem_singleton.2 rfl

/-- The run of a tool warns of nothing. -/
theorem leavesDirs_runTool (tool : Tool) (runner : ToolRunner) (ctx : Context) (project : Path) :
    (runTool tool runner ctx project).LeavesDirs := by
  refine leavesDirs_bind (leavesDirs_callWith runner _) fun answer => ?_
  cases answer with
  | ok answer => exact leavesDirs_pure _
  | error reason =>
    refine leavesDirs_bind (leavesDirs_warn ?_) fun _ => leavesDirs_pure _
    rw [List.forall_mem_singleton, String.append_assoc]
    cases tool <;> exact Event.not_isAboutDirs (by decide) (by decide) (by decide) _

theorem leavesDirs_runDependency (runner : ToolRunner) (ctx : Context) (project : Path)
    (files : List Path) : (runDependency runner ctx project files).LeavesDirs := by
  refine leavesDirs_bind (leavesDirs_callWith runner _) fun answer => ?_
  cases outdatedPackages (outdatedCall project) answer with
  | error said => exact leavesDirs_pure _
  | ok packages => exact leavesDirs_pure _

end Check

/-- No built-in check says anything about the declared source directories. -/
theorem Builtin.leavesDirs (b : Builtin) (ctx : Context) : (b.check.run ctx).LeavesDirs := by
  -- a tool, the check of requirements, or an analyzer of sources
  rcases b with ⟨tool | -, runner⟩ | a
  · apply Check.leavesDirs_ofProject
    intro ctx project
    rcases Check.skipReason? tool ctx with - | reason
    · cases runner with
      | none => exact leavesDirs_pure _
      | some runner => exact Check.leavesDirs_runTool tool runner ctx project
    · exact leavesDirs_pure _
  · apply Check.leavesDirs_ofProject
    intro ctx project
    -- the requirement files are listed first, which can give warnings of its own
    have hlisting : (warn (ctx.list Check.isRequirementFile project).warnings).LeavesDirs :=
      leavesDirs_warn fun _ htext => not_isAboutDirs_of_mem_list htext
    refine leavesDirs_bind hlisting fun _ => ?_
    rcases (ctx.list Check.isRequirementFile project).files with - | ⟨file, files⟩
    · exact leavesDirs_pure _
    · cases runner with
      | none => exact leavesDirs_pure _
      | some runner => exact Check.leavesDirs_runDependency runner ctx project (file :: files)
  · rw [check, a.check_eq_ofSources]
    apply Check.leavesDirs_ofProject
    intro ctx project
    exact leavesDirs_bind (leavesDirs_sources ctx) fun _ => leavesDirs_pure _

/-- So a chain of such checks says none either. -/
theorem Chain.leavesDirs_execute {chain : Chain} {ctx : Context}
    (h : ∀ check ∈ chain, (check.run ctx).LeavesDirs) : (chain.execute ctx).LeavesDirs := by
  induction chain with
  | nil => exact leavesDirs_pure _
  | cons check rest ih =>
    obtain ⟨hcheck, hrest⟩ := List.forall_mem_cons.1 h
    refine leavesDirs_bind hcheck fun outcome => ?_
    cases outcome with
    | results before => exact leavesDirs_bind (ih hrest) fun _ => leavesDirs_pure _
    | failure cause => exact leavesDirs_pure _
    | breakdown => exact leavesDirs_pure _

/-! ### Runs -/

namespace Pipeline

variable {p : Pipeline} {d : Disk} {chain : Chain}

/-- The pipeline with other source directories declared. -/
def declaring (p : Pipeline) (dirs : List String) : Pipeline :=
  { p with config := p.config.declaring dirs }

/-- The declared source directories that are there, as they are declared. -/
def dirsThere (p : Pipeline) (d : Disk) : List String :=
  p.config.paths.srcDirs.filter fun dir => d.isDirectory (p.project.join ⟨dir⟩)

/-- The declared source directories that are not there, as they are declared. -/
def dirsMissing (p : Pipeline) (d : Disk) : List String :=
  p.config.paths.srcDirs.filter fun dir => !d.isDirectory (p.project.join ⟨dir⟩)

/-- What a run does once it has said which source directories are missing. -/
def runBehind (p : Pipeline) (d : Disk) (chain : Chain) : Traced (Except Failure RunSummary) := do
  Traced.tell (.info (p.opening chain))
  match ← chain.execute (p.context d) with
  | .results results =>
    Traced.tell (.info (closing results))
    return .ok ⟨results, p.sourceDirs d, verdict results⟩
  | .failure cause =>
    Traced.warn ["pipeline aborted: " ++ cause.message]
    return .error cause
  | .breakdown =>
    Traced.warn ["pipeline aborted: check panicked"]
    return .error (.internal "check panicked")

theorem runChain_eq (p : Pipeline) (d : Disk) (chain : Chain) :
    p.runChain d chain = (Traced.warn (p.sourceWarnings d) >>= fun _ => p.runBehind d chain) := rfl

/-- What a run comes to is decided behind the warnings. -/
theorem value_runChain_eq (p : Pipeline) (d : Disk) (chain : Chain) :
    (p.runChain d chain).value = (p.runBehind d chain).value := rfl

theorem calls_runChain_eq (p : Pipeline) (d : Disk) (chain : Chain) :
    (p.runChain d chain).calls = (p.runBehind d chain).calls := by
  rw [runChain_eq, calls_bind, calls_warn, List.nil_append]

/-- A run that completes names the source directories that are there. -/
theorem sourceDirs_of_runChain {s : RunSummary} (h : (p.runChain d chain).value = .ok s) :
    s.sourceDirs = p.sourceDirs d := by
  rw [value_runChain] at h
  -- only results make a summary
  cases houtcome : (chain.execute (p.context d)).value with
  | results results =>
    rw [houtcome] at h
    obtain rfl := Except.ok.inj h
    rfl
  | failure cause =>
    rw [houtcome] at h
    cases h
  | breakdown =>
    rw [houtcome] at h
    cases h

/-- What is said of the source directories before the checks run. -/
theorem sourceWarnings_eq (p : Pipeline) (d : Disk) :
    p.sourceWarnings d = (p.dirsMissing d).map (fun dir => missingDir (p.project.join ⟨dir⟩)) ++
      if p.dirsThere d = [] then [noDirs] else [] := by
  have hnone : p.sourceDirs d = [] ↔ p.dirsThere d = [] := List.map_eq_nil_iff
  simp only [sourceWarnings, hnone]
  rfl

theorem isAboutDirs_of_mem_sourceWarnings {text : String} (h : text ∈ p.sourceWarnings d) :
    (Event.warning text).isAboutDirs = true := by
  rw [sourceWarnings_eq] at h
  rcases List.mem_append.1 h with h | h
  · obtain ⟨dir, -, rfl⟩ := List.mem_map.1 h
    exact Event.isAboutDirs_missingDir _
  · split at h
    · rw [List.mem_singleton.1 h]
      exact Event.isAboutDirs_noDirs
    · cases h

/-- What remains of the declared directories remains when it is declared alone, and nothing of it is
missing. -/
theorem dirs_declaring_dirsThere (p : Pipeline) (d : Disk) :
    (p.declaring (p.dirsThere d)).dirsThere d = p.dirsThere d ∧
      (p.declaring (p.dirsThere d)).dirsMissing d = [] := by
  constructor
  · show (p.dirsThere d).filter (fun dir => d.isDirectory (p.project.join ⟨dir⟩)) = _
    rw [dirsThere, List.filter_filter]
    simp only [Bool.and_self]
  · show (p.dirsThere d).filter (fun dir => !d.isDirectory (p.project.join ⟨dir⟩)) = _
    rw [dirsThere, List.filter_filter]
    simp

/-- Behind the warnings runs do the same if the same declared directories are there. -/
theorem runBehind_declaring {dirs : List String} (h : ∀ check ∈ chain, check.IgnoresDeclared)
    (hdirs : (p.declaring dirs).dirsThere d = p.dirsThere d) :
    (p.declaring dirs).runBehind d chain = p.runBehind d chain := by
  have hsourceDirs : (p.declaring dirs).sourceDirs d = p.sourceDirs d :=
    congrArg (List.map Path.mk) hdirs
  have hcontext : (p.declaring dirs).context d = (p.context d).declaring dirs := by
    rw [context, context, hsourceDirs]
    rfl
  rw [runBehind, runBehind, hcontext, Chain.execute_declaring h, hsourceDirs]
  rfl

/-- Behind the warnings nothing is said of source directories. -/
theorem leavesDirs_runBehind (h : ∀ check ∈ chain, (check.run (p.context d)).LeavesDirs) :
    (p.runBehind d chain).LeavesDirs := by
  have haborted (rest : String) : (Event.warning ("pipeline aborted: " ++ rest)).isAboutDirs = false :=
    Event.not_isAboutDirs (by decide) (by decide) (by decide) rest
  -- a line at the start, the checks, and a line or a warning at the end
  refine leavesDirs_bind (leavesDirs_tell_info _) fun _ => ?_
  refine leavesDirs_bind (Chain.leavesDirs_execute h) fun outcome => ?_
  cases outcome with
  | results results => exact leavesDirs_bind (leavesDirs_tell_info _) fun _ => leavesDirs_pure _
  | failure cause =>
    refine leavesDirs_bind (leavesDirs_warn ?_) fun _ => leavesDirs_pure _
    exact List.forall_mem_singleton.2 (haborted cause.message)
  | breakdown =>
    refine leavesDirs_bind (leavesDirs_warn ?_) fun _ => leavesDirs_pure _
    exact List.forall_mem_singleton.2 (haborted "check panicked")

/-- A run opens with the warnings about its source directories. -/
theorem events_runChain (p : Pipeline) (d : Disk) (chain : Chain) :
    (p.runChain d chain).events =
      (p.sourceWarnings d).map Event.warning ++ (p.runBehind d chain).events := rfl

/-- So does its log, whatever the checks write to it. -/
theorem log_runChain (p : Pipeline) (d : Disk) (chain : Chain) :
    (p.runChain d chain).log =
      (p.sourceWarnings d).map (fun text => "WARN " ++ text) ++ (p.runBehind d chain).log := by
  rw [Traced.log, events_runChain, List.filterMap_append, List.filterMap_map, ← List.filterMap_eq_map]
  rfl

/-- The warnings about source directories are what a run says of them before the checks run. -/
theorem filter_events_runChain (h : ∀ check ∈ chain, (check.run (p.context d)).LeavesDirs) :
    (p.runChain d chain).events.filter Event.isAboutDirs = (p.sourceWarnings d).map Event.warning ∧
      (p.runChain d chain).events.filter (fun e => !e.isAboutDirs) = (p.runBehind d chain).events := by
  have hwarnings : ∀ e ∈ (p.sourceWarnings d).map Event.warning, e.isAboutDirs = true :=
    List.forall_mem_map.2 fun text htext => isAboutDirs_of_mem_sourceWarnings htext
  have hbehind : ∀ e ∈ (p.runBehind d chain).events, e.isAboutDirs = false := leavesDirs_runBehind h
  rw [events_runChain, List.filter_append, List.filter_append]
  constructor
  · have hnone : (p.runBehind d chain).events.filter Event.isAboutDirs = [] :=
      List.filter_eq_nil_iff.2 fun e he => by simp [hbehind e he]
    rw [List.filter_eq_self.2 hwarnings, hnone, List.append_nil]
  · have hnone : ((p.sourceWarnings d).map Event.warning).filter (fun e => !e.isAboutDirs) = [] :=
      List.filter_eq_nil_iff.2 fun e he => by simp [hwarnings e he]
    rw [hnone, List.filter_eq_self.2 fun e he => by simp [hbehind e he], List.nil_append]

/-- The checks of a run are the built-in ones. -/
theorem exists_builtin_of_mem_chain {check : Check} (h : check ∈ p.chain) :
    ∃ b : Builtin, check = b.check := by
  rw [chain_eq_map_builtins] at h
  obtain ⟨b, -, rfl⟩ := List.mem_map.1 h
  exact ⟨b, rfl⟩

theorem ignoresDeclared_of_mem_chain {check : Check} (h : check ∈ p.chain) :
    check.IgnoresDeclared := by
  obtain ⟨b, rfl⟩ := exists_builtin_of_mem_chain h
  exact b.ignoresDeclared

/-- The run of all checks, parted likewise. -/
theorem filter_events_run (p : Pipeline) (d : Disk) :
    (p.run d).events.filter Event.isAboutDirs = (p.sourceWarnings d).map Event.warning ∧
      (p.run d).events.filter (fun e => !e.isAboutDirs) = (p.runBehind d p.chain).events := by
  apply filter_events_runChain
  intro check hcheck
  obtain ⟨b, rfl⟩ := exists_builtin_of_mem_chain hcheck
  exact b.leavesDirs _

/-- Declaring only those source directories that are there changes nothing but warnings: the run comes to
the same results, source directories and verdict or to the same error, makes the same tool calls, and
does the same in all else.  The source directories of a run are those of the declared ones that are
directories, in their order and as often as they are declared.  The warnings about them are one for each
declared one that is no directory, in their order, and a last one if there is none left. -/
theorem missing_directories_only_warned (p : Pipeline) (d : Disk) :
    let q := p.declaring (p.dirsThere d)
    (p.run d).value = (q.run d).value ∧
    (p.run d).calls = (q.run d).calls ∧
    (p.run d).events.filter (fun e => !e.isAboutDirs) =
      (q.run d).events.filter (fun e => !e.isAboutDirs) ∧
    (∀ s, (p.run d).value = .ok s → s.sourceDirs = (p.dirsThere d).map Path.mk) ∧
    (p.run d).events.filter Event.isAboutDirs =
      (p.dirsMissing d).map (fun dir => .warning (missingDir (p.project.join ⟨dir⟩))) ++
        (if p.dirsThere d = [] then [.warning noDirs] else []) ∧
    (q.run d).events.filter Event.isAboutDirs =
      (if p.dirsThere d = [] then [.warning noDirs] else []) := by
  intro q
  have hthere : q.dirsThere d = p.dirsThere d := (dirs_declaring_dirsThere p d).1
  have hmissing : q.dirsMissing d = [] := (dirs_declaring_dirsThere p d).2
  -- behind the warnings both runs are the same one
  have hbehind : q.runBehind d q.chain = p.runBehind d p.chain :=
    runBehind_declaring (fun _ hcheck => ignoresDeclared_of_mem_chain hcheck) hthere
  obtain ⟨hp, hprest⟩ := filter_events_run p d
  obtain ⟨hq, hqrest⟩ := filter_events_run q d
  refine ⟨?_, ?_, ?_, ?_, ?_, ?_⟩
  · rw [run, run, value_runChain_eq, value_runChain_eq, hbehind]
  · rw [run, run, calls_runChain_eq, calls_runChain_eq, hbehind]
  · rw [hprest, hqrest, hbehind]
  · intro s hs
    exact sourceDirs_of_runChain hs
  · rw [hp, sourceWarnings_eq, List.map_append, List.map_map, apply_ite (List.map Event.warning)]
    rfl
  · rw [hq, sourceWarnings_eq, hmissing, hthere, List.map_nil, List.nil_append,
      apply_ite (List.map Event.warning)]
    rfl

end Pipeline

end QualityGate
