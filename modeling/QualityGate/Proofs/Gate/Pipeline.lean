/-
A run over a project completes exactly when the project's path is absolute.

Each check of the pipeline gives a single result, under its own name, for a project with an absolute
path and refuses any other (`Check.GivesOwnResult`).  Which result it gives depends on the files, on
the configuration and on what the tools answer; that it gives one does not.

A chain of such checks has the results of its checks in their order (`names_of_execute`), or it is
refused by its first check (`execute_refused`).
-/
import QualityGate.Gate.Pipeline
import QualityGate.Proofs.Check.Analyzer

namespace QualityGate

/-! ### One result under the check's own name -/

namespace Check

/-- The check gives a single result under its name if the project has an absolute path, and refuses
the project otherwise. -/
structure GivesOwnResult (check : Check) : Prop where
  single : ∀ ctx project, ctx.requireProject = .ok project →
    ∃ result, (check.run ctx).value = .results [result] ∧ result.name = check.name
  refused : ∀ ctx cause, ctx.requireProject = .error cause →
    (check.run ctx).value = .failure cause

variable {name : String}

/-- A check that gives one result under its name gives its own result. -/
theorem givesOwnResult_ofProject {run : Context → Path → Traced CheckResult}
    (h : ∀ ctx project, (run ctx project).value.name = name) :
    (ofProject name run).GivesOwnResult := by
  constructor
  · intro ctx project hproject
    refine ⟨(run ctx project).value, ?_, h ctx project⟩
    simp only [ofProject, hproject]
    rfl
  · intro ctx cause hproject
    simp only [ofProject, hproject]
    rfl

/-! ### Checks of sources -/

@[simp] theorem name_aggregate (name header pass : String) (findings : List Finding) :
    (aggregate name header pass findings).name = name := by
  cases findings <;> rfl

theorem givesOwnResult_ofSources (name header pass : String)
    (analyse : Context → Path → List Finding) :
    (ofSources name header pass analyse).GivesOwnResult :=
  givesOwnResult_ofProject fun _ _ => name_aggregate name header pass _

/-! ### Checks of tools -/

theorem name_coverageResult (answer : ToolAnswer) (min : Nat) :
    (Tool.coverageResult answer min).name = Tool.coverage.checkName := by
  rw [Tool.coverageResult]
  split
  · dsimp only
    split <;> rfl
  · rfl

@[simp] theorem name_evaluate (tool : Tool) (answer : ToolAnswer) (min : Nat) :
    (tool.evaluate answer min).name = tool.checkName := by
  rw [Tool.evaluate]
  split
  · next htool =>
    rw [htool]
    exact name_coverageResult answer min
  · split
    · rfl
    · split <;> rfl

/-- Whether the tool answers or cannot be started, its check has a result. -/
theorem name_runTool (tool : Tool) (runner : ToolRunner) (ctx : Context) (project : Path) :
    (runTool tool runner ctx project).value.name = tool.checkName := by
  rw [runTool, Traced.value_bind]
  rcases (callWith runner (callOf tool ctx project)).value with reason | answer
  · rfl
  · exact name_evaluate tool answer _

/-- The check of a tool does, whether or not the tool runs. -/
theorem givesOwnResult_ofTool (tool : Tool) (runner : Option ToolRunner) :
    (ofTool tool runner).GivesOwnResult := by
  apply givesOwnResult_ofProject
  intro ctx project
  rcases skipReason? tool ctx with - | reason
  · cases runner with
    | none => rfl
    | some runner => exact name_runTool tool runner ctx project
  · rfl

/-! ### The check of requirements -/

theorem name_dependencyResult (lines : List String) :
    (dependencyResult lines).name = CheckName.dependency := by
  cases lines <;> rfl

/-- Whether or not the package tool's answer can be used, the check has a result. -/
theorem name_runDependency (runner : ToolRunner) (ctx : Context) (project : Path)
    (files : List Path) :
    (runDependency runner ctx project files).value.name = CheckName.dependency := by
  rw [runDependency, Traced.value_bind]
  rcases outdatedPackages (outdatedCall project) (callWith runner (outdatedCall project)).value
    with said | packages
  · rfl
  · exact name_dependencyResult _

/-- So does the check of requirements. -/
theorem givesOwnResult_dependency (runner : Option ToolRunner) :
    (dependency runner).GivesOwnResult := by
  apply givesOwnResult_ofProject
  intro ctx project
  rw [Traced.value_bind]
  rcases (ctx.list isRequirementFile project).files with - | ⟨file, files⟩
  · -- without a file the package tool is not asked
    rfl
  · cases runner with
    | none => rfl
    | some runner => exact name_runDependency runner ctx project (file :: files)

end Check

/-! ### Chains -/

namespace Chain

variable {chain : Chain} {ctx : Context}

/-- A chain of such checks gives one result for each of them, in their order. -/
theorem names_of_execute {project : Path} (h : ∀ check ∈ chain, check.GivesOwnResult)
    (hproject : ctx.requireProject = .ok project) :
    ∃ results, (chain.execute ctx).value = .results results ∧
      results.map CheckResult.name = chain.names := by
  induction chain with
  | nil => exact ⟨[], rfl, rfl⟩
  | cons check rest ih =>
    obtain ⟨hcheck, hrest⟩ := List.forall_mem_cons.1 h
    obtain ⟨result, hrun, hname⟩ := hcheck.single ctx project hproject
    obtain ⟨results, hresults, hnames⟩ := ih hrest
    -- the result in front is that of the first check, and the others stand behind it
    refine ⟨result :: results, ?_, ?_⟩
    · rw [execute, Traced.value_bind, hrun]
      show ((execute rest ctx).value.behind [result]) = _
      rw [hresults]
      rfl
    · rw [List.map_cons, hname, hnames]
      rfl

/-- Without a project to go on, the first check of a chain ends it. -/
theorem execute_refused {cause : Failure} (h : ∀ check ∈ chain, check.GivesOwnResult)
    (hne : chain ≠ []) (hcause : ctx.requireProject = .error cause) :
    (chain.execute ctx).value = .failure cause := by
  obtain ⟨check, rest, rfl⟩ := List.exists_cons_of_ne_nil hne
  rw [execute, Traced.value_bind, (h check List.mem_cons_self).refused ctx cause hcause]
  rfl

end Chain

/-! ### The pipeline -/

namespace Pipeline

theorem givesOwnResult_of_mem_chain {p : Pipeline} {check : Check} (h : check ∈ p.chain) :
    check.GivesOwnResult := by
  rcases List.mem_append.1 h with htool | hother
  · obtain ⟨tool, -, rfl⟩ := List.mem_map.1 htool
    exact Check.givesOwnResult_ofTool tool p.runner
  · simp only [List.mem_cons, List.not_mem_nil, or_false] at hother
    rcases hother with rfl | rfl | rfl | rfl | rfl
    · exact Check.givesOwnResult_ofSources _ _ _ _
    · exact Check.givesOwnResult_ofSources _ _ _ _
    · exact Check.givesOwnResult_ofSources _ _ _ _
    · exact Check.givesOwnResult_ofSources _ _ _ _
    · exact Check.givesOwnResult_dependency p.runner

/-- The chain of a run has the fixed names in the fixed order. -/
theorem names_chain (p : Pipeline) : p.chain.names = CheckName.all := by
  rw [Chain.names, chain, List.map_append, List.map_map]
  rfl

/-- The run of a chain whose checks all give results. -/
theorem value_runChain_of_results {p : Pipeline} {d : Disk} {chain : Chain}
    {results : List CheckResult} (h : (chain.execute (p.context d)).value = .results results) :
    (p.runChain d chain).value = .ok ⟨results, p.sourceDirs d, verdict results⟩ := by
  rw [runChain, Traced.value_bind, Traced.value_bind, Traced.value_bind, h]
  rfl

/-- The run of a chain that is refused. -/
theorem value_runChain_of_failure {p : Pipeline} {d : Disk} {chain : Chain} {cause : Failure}
    (h : (chain.execute (p.context d)).value = .failure cause) :
    (p.runChain d chain).value = .error cause := by
  rw [runChain, Traced.value_bind, Traced.value_bind, Traced.value_bind, h]
  rfl

/-- The run of a chain that breaks down. -/
theorem value_runChain_of_breakdown {p : Pipeline} {d : Disk} {chain : Chain}
    (h : (chain.execute (p.context d)).value = .breakdown) :
    (p.runChain d chain).value = .error (.internal "check panicked") := by
  rw [runChain, Traced.value_bind, Traced.value_bind, Traced.value_bind, h]
  rfl

/-- Every list of results is that of a run. -/
theorem exists_runChain_results (p : Pipeline) (d : Disk) (results : List CheckResult) :
    ∃ chain s, (p.runChain d chain).value = .ok s ∧ s.results = results := by
  have hexecute : (Chain.execute [⟨"", fun _ => .pure (.results results)⟩] (p.context d)).value =
      .results (results ++ []) := rfl
  rw [List.append_nil] at hexecute
  exact ⟨_, _, value_runChain_of_results hexecute, rfl⟩

/-- A run that completes has the verdict over its results. -/
theorem passed_of_runChain {p : Pipeline} {d : Disk} {chain : Chain} {s : RunSummary}
    (h : (p.runChain d chain).value = .ok s) : s.passed = verdict s.results := by
  rcases hexecute : (chain.execute (p.context d)).value with results | cause | -
  · rw [value_runChain_of_results hexecute] at h
    obtain rfl := Except.ok.inj h
    rfl
  · rw [value_runChain_of_failure hexecute] at h
    cases h
  · rw [value_runChain_of_breakdown hexecute] at h
    cases h

theorem requireProject_context {p : Pipeline} (d : Disk) (h : p.project.isAbsolute = true) :
    (p.context d).requireProject = .ok p.project :=
  Context.requireProject_of_isAbsolute h

theorem requireProject_context_of_not {p : Pipeline} (d : Disk) (h : p.project.isAbsolute = false) :
    ∃ reason, (p.context d).requireProject = .error (.context reason) := by
  have hnot : ¬ p.project.isAbsolute = true := by
    rw [h]
    exact Bool.false_ne_true
  by_cases hempty : p.project.text = ""
  · exact ⟨_, if_pos hempty⟩
  · exact ⟨_, (if_neg hempty).trans (if_neg hnot)⟩

/-- A run over an absolute path comes to its end with a result for every check. -/
theorem run_of_absolute {p : Pipeline} (d : Disk) (h : p.project.isAbsolute = true) :
    ∃ s, (p.run d).value = .ok s ∧ s.results.map CheckResult.name = CheckName.all := by
  obtain ⟨results, hresults, hnames⟩ := Chain.names_of_execute
    (fun _ hcheck => givesOwnResult_of_mem_chain hcheck) (requireProject_context d h)
  refine ⟨_, value_runChain_of_results hresults, ?_⟩
  rw [← names_chain p, ← hnames]

/-- A run over any other path ends in an error about its context. -/
theorem run_of_not_absolute {p : Pipeline} (d : Disk) (h : p.project.isAbsolute = false) :
    ∃ reason, (p.run d).value = .error (.context reason) := by
  obtain ⟨reason, hreason⟩ := requireProject_context_of_not d h
  have hne : p.chain ≠ [] := List.cons_ne_nil _ _
  exact ⟨reason, value_runChain_of_failure (Chain.execute_refused
    (fun _ hcheck => givesOwnResult_of_mem_chain hcheck) hne hreason)⟩

/-- Whatever the configuration, the disk and the tools' answers are, a run over a project with an
absolute path has one result of each check, in their order; a run over any other project ends because
of its path, and that is all that can end one. -/
theorem run_completes_iff_absolute (p : Pipeline) (d : Disk) :
    ((∃ s, (p.run d).value = .ok s ∧ s.results.map CheckResult.name = CheckName.all ∧
      s.results.length = 12) ↔ p.project.isAbsolute = true) ∧
    ((∃ reason, (p.run d).value = .error (.context reason)) ↔
      p.project.text = "" ∨ p.project.isAbsolute = false) := by
  -- each side comes to one of the two ends, and a run has only one
  rcases hproject : p.project.isAbsolute
  · obtain ⟨reason, hreason⟩ := run_of_not_absolute d hproject
    refine ⟨⟨?_, nofun⟩, ⟨fun _ => .inr rfl, fun _ => ⟨reason, hreason⟩⟩⟩
    rintro ⟨s, hs, -⟩
    exact nomatch hreason.symm.trans hs
  · obtain ⟨s, hs, hnames⟩ := run_of_absolute d hproject
    have hlength : s.results.length = 12 := by
      rw [← List.length_map (f := CheckResult.name), hnames]
      rfl
    refine ⟨⟨fun _ => rfl, fun _ => ⟨s, hs, hnames, hlength⟩⟩, ⟨?_, ?_⟩⟩
    · rintro ⟨reason, hreason⟩
      exact nomatch hreason.symm.trans hs
    · rintro (hempty | habsolute)
      · rw [Path.not_isAbsolute_of_empty hempty] at hproject
        cases hproject
      · cases habsolute

end Pipeline

end QualityGate
