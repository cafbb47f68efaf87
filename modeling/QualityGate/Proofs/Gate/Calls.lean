/-
The results of a run account for its tool calls.

A wrapper is skipped before its program is started or not at all: with a skipped result it has made no
call, and with any other result exactly one (`Builtin.callsIn_eq`).  An analyzer makes none.  So the
calls of a run can be read off its results, one for each that is a wrapper's and not skipped, in their
order (`calls_accounted_for_by_results`).
-/
import QualityGate.Proofs.Check.Builtin

namespace QualityGate

namespace Context

/-- The call that a result stands for: none if it is skipped or no wrapper's. -/
def callBehind? (ctx : Context) (r : CheckResult) : Option ToolCall :=
  if r.status = .skipped then none else (Wrapper.named? r.name).map fun w => w.call ctx

variable {ctx : Context} {r : CheckResult}

/-- Behind the result of a wrapper that was not skipped is the call of its program. -/
theorem callBehind?_of_wrapper {w : Wrapper} (hname : r.name = w.checkName)
    (h : r.status ≠ .skipped) : ctx.callBehind? r = some (w.call ctx) := by
  rw [callBehind?, if_neg h, hname, Wrapper.named?_checkName]
  rfl

/-- Behind the result of an analyzer is no call. -/
theorem callBehind?_of_analyzer {a : Analyzer} (hname : r.name = a.name) :
    ctx.callBehind? r = none := by
  rw [callBehind?, hname, Analyzer.named?_name]
  exact ite_self _

end Context

/-! ### A program that is started is not skipped -/

namespace Check

theorem not_skipped_coverageResult (answer : ToolAnswer) (min : Nat) :
    (Tool.coverageResult answer min).status ≠ .skipped := by
  rw [Tool.coverageResult]
  split
  · dsimp only
    split <;> rintro ⟨⟩
  · rintro ⟨⟩

theorem not_skipped_evaluate (tool : Tool) (answer : ToolAnswer) (min : Nat) :
    (tool.evaluate answer min).status ≠ .skipped := by
  rw [Tool.evaluate]
  split
  · exact not_skipped_coverageResult answer min
  · split
    · rintro ⟨⟩
    · split <;> rintro ⟨⟩

/-- A tool that is started is called once, and its result is not skipped, whether or not it answers. -/
theorem runTool_calls_once (tool : Tool) (runner : ToolRunner) (ctx : Context) (project : Path) :
    (runTool tool runner ctx project).calls = [callOf tool ctx project] ∧
      (runTool tool runner ctx project).value.status ≠ .skipped := by
  rw [runTool, Traced.calls_bind, Traced.value_bind]
  rcases (callWith runner (callOf tool ctx project)).value with reason | answer
  · exact ⟨rfl, by rintro ⟨⟩⟩
  · exact ⟨rfl, not_skipped_evaluate tool answer _⟩

theorem not_skipped_dependencyResult (lines : List String) :
    (dependencyResult lines).status ≠ .skipped := by
  cases lines <;> rintro ⟨⟩

/-- The package tool is called once for all files, and then the result is not skipped. -/
theorem runDependency_calls_once (runner : ToolRunner) (ctx : Context) (project : Path)
    (files : List Path) :
    (runDependency runner ctx project files).calls = [outdatedCall project] ∧
      (runDependency runner ctx project files).value.status ≠ .skipped := by
  rw [runDependency, Traced.calls_bind, Traced.value_bind]
  rcases outdatedPackages (outdatedCall project) (callWith runner (outdatedCall project)).value
    with said | packages
  · exact ⟨rfl, by rintro ⟨⟩⟩
  · exact ⟨rfl, not_skipped_dependencyResult _⟩

/-- Searching for sources calls no tool. -/
theorem calls_sources (ctx : Context) : ctx.sources.calls = [] := by
  rw [Context.sources, Traced.calls_bind, Traced.calls_warn]
  rfl

/-! ### One check -/

variable {ctx : Context} {name : String} {run : Context → Path → Traced CheckResult}

/-- A check calls what is called behind its test of the project's path, and has the result from there. -/
theorem run_ofProject (name : String) (run : Context → Path → Traced CheckResult)
    (h : ctx.project.isAbsolute = true) :
    (ofProject name run).callsIn ctx = (run ctx ctx.project).calls ∧
      (ofProject name run).resultsIn ctx = [(run ctx ctx.project).value] := by
  rw [callsIn, resultsIn, run_ofProject_of_isAbsolute name run h, Traced.calls_bind]
  exact ⟨List.append_nil _, rfl⟩

/-- The calls of a check are those that its results stand for, if this is so for its single result. -/
theorem callsIn_ofProject (h : ctx.project.isAbsolute = true)
    (hrun : (run ctx ctx.project).calls = (ctx.callBehind? (run ctx ctx.project).value).toList) :
    (ofProject name run).callsIn ctx =
      ((ofProject name run).resultsIn ctx).filterMap ctx.callBehind? := by
  obtain ⟨hcalls, hresults⟩ := run_ofProject name run h
  rw [hcalls, hresults, hrun, List.filterMap_cons, List.filterMap_nil]
  rcases ctx.callBehind? (run ctx ctx.project).value with - | call <;> rfl

/-- The check of a tool makes the call behind its result, if there is one. -/
theorem callsIn_ofTool (tool : Tool) (runner : Option ToolRunner) (h : ctx.project.isAbsolute = true) :
    (ofTool tool runner).callsIn ctx =
      ((ofTool tool runner).resultsIn ctx).filterMap ctx.callBehind? := by
  apply callsIn_ofProject h
  rcases skipReason? tool ctx with - | reason
  · cases runner with
    | none => rfl
    | some runner =>
      obtain ⟨hcalls, hstatus⟩ := runTool_calls_once tool runner ctx ctx.project
      have hname := name_runTool tool runner ctx ctx.project
      show (runTool tool runner ctx ctx.project).calls = _
      rw [hcalls, Context.callBehind?_of_wrapper (w := .tool tool) hname hstatus]
      rfl
  · rfl

/-- So does the check of requirements. -/
theorem callsIn_dependency (runner : Option ToolRunner) (h : ctx.project.isAbsolute = true) :
    (dependency runner).callsIn ctx =
      ((dependency runner).resultsIn ctx).filterMap ctx.callBehind? := by
  apply callsIn_ofProject h
  rw [Traced.calls_bind, Traced.value_bind, Traced.calls_warn, List.nil_append]
  -- without a requirement file, or without a runner, it is skipped and calls nothing
  rcases (ctx.list isRequirementFile ctx.project).files with - | ⟨file, files⟩
  · rfl
  · cases runner with
    | none => rfl
    | some runner =>
      obtain ⟨hcalls, hstatus⟩ := runDependency_calls_once runner ctx ctx.project (file :: files)
      have hname := name_runDependency runner ctx ctx.project (file :: files)
      show (runDependency runner ctx ctx.project (file :: files)).calls = _
      rw [hcalls, Context.callBehind?_of_wrapper (w := .packages) hname hstatus]
      rfl

/-- An analyzer calls nothing. -/
theorem callsIn_analyzer (a : Analyzer) (h : ctx.project.isAbsolute = true) :
    a.check.callsIn ctx = (a.check.resultsIn ctx).filterMap ctx.callBehind? := by
  rw [a.check_eq_ofSources]
  apply callsIn_ofProject h
  rw [Traced.calls_bind, calls_sources]
  have hname := name_aggregate a.name a.header a.pass (ctx.sources.value.flatMap (a.analyse ctx))
  exact congrArg Option.toList (Context.callBehind?_of_analyzer hname).symm

end Check

namespace Builtin

variable {ctx : Context}

/-- The calls of a built-in check are those that its results stand for. -/
theorem callsIn_eq (b : Builtin) (h : ctx.project.isAbsolute = true) :
    b.check.callsIn ctx = (b.check.resultsIn ctx).filterMap ctx.callBehind? := by
  rcases b with ⟨tool | -, runner⟩ | a
  · exact Check.callsIn_ofTool tool runner h
  · exact Check.callsIn_dependency runner h
  · exact Check.callsIn_analyzer a h

/-- The runner that the check has for its program, if any. -/
def runner? : Builtin → Option ToolRunner
  | wrapper _ runner => runner
  | analyzer _ => none

/-- Without a runner no program is called. -/
theorem callsIn_eq_nil (b : Builtin) (hrunner : b.runner? = none) (h : ctx.project.isAbsolute = true) :
    b.check.callsIn ctx = [] := by
  -- a tool and the check of requirements are skipped, and an analyzer never calls
  rcases b with ⟨tool | -, runner⟩ | a
  · obtain rfl : runner = none := hrunner
    refine (Check.run_ofProject _ _ h).1.trans ?_
    rcases Check.skipReason? tool ctx with - | reason <;> rfl
  · obtain rfl : runner = none := hrunner
    refine (Check.run_ofProject _ _ h).1.trans ?_
    rw [Traced.calls_bind, Traced.calls_warn, List.nil_append]
    rcases (ctx.list Check.isRequirementFile ctx.project).files with - | ⟨file, files⟩ <;> rfl
  · rw [check, a.check_eq_ofSources]
    refine (Check.run_ofProject _ _ h).1.trans ?_
    rw [Traced.calls_bind, Check.calls_sources]
    rfl

end Builtin

/-! ### Runs -/

namespace Pipeline

variable {p : Pipeline} {d : Disk}

/-- The calls of a chain of built-in checks are those that its results stand for. -/
theorem calls_runChain_builtins (links : List Builtin) (h : p.project.isAbsolute = true) :
    (p.runChain d (links.map Builtin.check)).calls =
      ((links.map Builtin.check).flatMap (Check.resultsIn (p.context d))).filterMap
        (p.context d).callBehind? := by
  rw [calls_of_ends (Chain.ends_builtins links h), List.filterMap_flatMap, List.flatMap_map,
    List.flatMap_map]
  exact congrArg (links.flatMap ·) (funext fun b => b.callsIn_eq h)

/-- Built-in checks without a runner call nothing. -/
theorem calls_runChain_of_no_runner (links : List Builtin) (h : p.project.isAbsolute = true)
    (hrunner : ∀ b ∈ links, b.runner? = none) : (p.runChain d (links.map Builtin.check)).calls = [] := by
  rw [calls_of_ends (Chain.ends_builtins links h), List.flatMap_map, List.flatMap_eq_nil_iff]
  exact fun b hb => b.callsIn_eq_nil (hrunner b hb) h

/-- For a project that is refused no tool is called. -/
theorem calls_run_of_not_absolute (d : Disk) (h : p.project.isAbsolute = false) :
    (p.run d).calls = [] := by
  obtain ⟨reason, hreason⟩ := requireProject_context_of_not d h
  have hne : p.builtins ≠ [] := List.cons_ne_nil _ _
  rw [run, calls_runChain, chain_eq_map_builtins, Chain.execute_builtins_of_error hne hreason]
  rfl

/-- Without a runner a run makes no call. -/
theorem calls_run_of_no_runner (d : Disk) (hrunner : p.runner = none) : (p.run d).calls = [] := by
  rcases hproject : p.project.isAbsolute with - | -
  · exact calls_run_of_not_absolute d hproject
  · have hlinks : ∀ b ∈ p.builtins, b.runner? = none := by
      simp [builtins, Tool.all, Builtin.runner?, hrunner]
    exact calls_runChain_of_no_runner p.builtins hproject hlinks

/-- The tool calls of a run can be read off its results: each result that is not skipped and is that of
a wrapper stands for one call of its program, in the project's directory and over the source
directories that are there, and there are no other calls.  A run that is refused calls nothing, and
neither does one without a runner. -/
theorem calls_accounted_for_by_results (p : Pipeline) (d : Disk) :
    (match (p.run d).value with
      | .ok s =>
        s.results.map CheckResult.name = CheckName.all ∧
        (p.run d).calls = s.results.filterMap fun r =>
          if r.status = .skipped then none
          else (Wrapper.named? r.name).map fun w =>
            ⟨w.program, w.arguments ((p.sourceDirs d).map Path.text) p.config.general.minTestCoverage,
              p.project⟩
      | .error _ => (p.run d).calls = []) ∧
    (run { p with runner := none } d).calls = [] := by
  refine ⟨?_, calls_run_of_no_runner d rfl⟩
  rcases hproject : p.project.isAbsolute with - | -
  · obtain ⟨reason, hreason⟩ := run_of_not_absolute d hproject
    rw [hreason]
    exact calls_run_of_not_absolute d hproject
  · obtain ⟨s, hs, hnames⟩ := run_of_absolute d hproject
    obtain rfl := Except.ok.inj (hs.symm.trans (value_runChain_builtins p.builtins hproject))
    rw [hs]
    exact ⟨hnames, calls_runChain_builtins p.builtins hproject⟩

end Pipeline

end QualityGate
