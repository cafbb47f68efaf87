/-
The built-in checks.

A wrapper starts a program and judges its answer: the check of each tool does, and so does the check of
requirements, which asks the package tool.  The analyzers start none.  `Builtin` names all of them, each
with what can be set for it, and the chain of a pipeline is made of them (`chain_eq_map_builtins`).

For a project with an absolute path each has a single result; any other project it refuses, and does
nothing (`refuses`).
-/
import QualityGate.Proofs.Gate.Chain

namespace QualityGate

/-! ### Wrappers -/

/-- A check that starts a program: that of a tool, or that of requirements. -/
inductive Wrapper where
  | tool (tool : Tool)
  | packages
  deriving DecidableEq

namespace Wrapper

/-- The wrappers in the order in which they run. -/
def all : List Wrapper :=
  Tool.all.map tool ++ [packages]

/-- The name of the wrapper's check. -/
def checkName : Wrapper → String
  | tool t => t.checkName
  | packages => CheckName.dependency

/-- The program that is started. -/
def program : Wrapper → String
  | tool t => t.program
  | packages => "pip"

/-- The arguments of a run over directories. -/
def arguments (w : Wrapper) (dirs : List String) (minCoverage : Nat) : List String :=
  match w with
  | tool t => t.arguments dirs minCoverage
  | packages => ["list", "--outdated", "--format=json"]

/-- The start of the program for what a check is given. -/
def call (w : Wrapper) (ctx : Context) : ToolCall where
  program := w.program
  arguments := w.arguments (ctx.sourceDirs.map Path.text) ctx.config.general.minTestCoverage
  directory := ctx.project

/-- The check itself. -/
def check (w : Wrapper) (runner : Option ToolRunner) : Check :=
  match w with
  | tool t => Check.ofTool t runner
  | packages => Check.dependency runner

/-- The wrapper whose check has the name. -/
def named? (name : String) : Option Wrapper :=
  all.find? fun w => w.checkName = name

@[simp] theorem named?_checkName (w : Wrapper) : named? w.checkName = some w := by
  rcases w with (_ | _ | _ | _ | _ | _ | _) | _ <;> decide

end Wrapper

@[simp] theorem Analyzer.named?_name (a : Analyzer) : Wrapper.named? a.name = none := by
  cases a <;> rfl

/-! ### All built-in checks -/

/-- The built-in checks, each with what can be set for it. -/
inductive Builtin where
  | wrapper (w : Wrapper) (runner : Option ToolRunner)
  | analyzer (a : Analyzer)

namespace Builtin

/-- The check itself. -/
def check : Builtin → Check
  | wrapper w runner => w.check runner
  | analyzer a => a.check

theorem givesOwnResult (b : Builtin) : b.check.GivesOwnResult := by
  rcases b with ⟨tool | -, runner⟩ | a
  · exact Check.givesOwnResult_ofTool tool runner
  · exact Check.givesOwnResult_dependency runner
  · rw [check, a.check_eq_ofSources]
    exact Check.givesOwnResult_ofSources _ _ _ _

theorem exists_eq_ofProject (b : Builtin) : ∃ name run, b.check = Check.ofProject name run := by
  rcases b with ⟨tool | -, runner⟩ | a
  · exact ⟨_, _, rfl⟩
  · exact ⟨_, _, rfl⟩
  · exact ⟨_, _, a.check_eq_ofSources⟩

variable {ctx : Context}

theorem givesResults (b : Builtin) (h : ctx.project.isAbsolute = true) : b.check.GivesResults ctx := by
  obtain ⟨result, hrun, -⟩ := b.givesOwnResult.single ctx _ (Context.requireProject_of_isAbsolute h)
  exact ⟨[result], hrun⟩

/-- A project whose path is not absolute is refused at once. -/
theorem refuses (b : Builtin) {cause : Failure} (h : ctx.requireProject = .error cause) :
    b.check.run ctx = ⟨[], .failure cause⟩ := by
  obtain ⟨name, run, hcheck⟩ := b.exists_eq_ofProject
  rw [hcheck, Check.ofProject]
  simp only [h]
  rfl

end Builtin

/-! ### Chains of built-in checks -/

namespace Chain

variable {ctx : Context}

/-- A chain of built-in checks has the results of all of them if the project's path is absolute. -/
theorem ends_builtins (links : List Builtin) (h : ctx.project.isAbsolute = true) :
    Ends ctx (links.map Builtin.check) (links.map Builtin.check)
      (.results ((links.map Builtin.check).flatMap (Check.resultsIn ctx))) := by
  apply Ends.complete
  intro link hlink
  obtain ⟨b, -, rfl⟩ := List.mem_map.1 hlink
  exact b.givesResults h

/-- Any other project is refused by the first of them. -/
theorem execute_builtins_of_error {links : List Builtin} (hne : links ≠ []) {cause : Failure}
    (h : ctx.requireProject = .error cause) :
    execute (links.map Builtin.check) ctx = ⟨[], .failure cause⟩ := by
  obtain ⟨b, rest, rfl⟩ := List.exists_cons_of_ne_nil hne
  have hnot : ¬ b.check.GivesResults ctx := by
    rintro ⟨results, hresults⟩
    rw [b.refuses h] at hresults
    cases hresults
  rw [List.map_cons, execute_cons_of_not hnot, b.refuses h]

end Chain

namespace Pipeline

/-- The built-in checks of a pipeline in their order. -/
def builtins (p : Pipeline) : List Builtin :=
  Tool.all.map (fun tool => .wrapper (.tool tool) p.runner) ++
    [.analyzer .naming, .analyzer (.fileLength p.config.general.maxFileLength),
      .analyzer (.functionLength p.config.general.maxFunctionLength),
      .analyzer (.docstring docstringScope), .wrapper .packages p.runner]

theorem chain_eq_map_builtins (p : Pipeline) : p.chain = p.builtins.map Builtin.check := rfl

variable {p : Pipeline} {d : Disk}

theorem value_runChain_builtins (links : List Builtin) (h : p.project.isAbsolute = true) :
    (p.runChain d (links.map Builtin.check)).value =
      let results := (links.map Builtin.check).flatMap (Check.resultsIn (p.context d))
      .ok ⟨results, p.sourceDirs d, verdict results⟩ :=
  value_runChain_of_results (congrArg Traced.value (Chain.execute_of_ends (Chain.ends_builtins links h)))

end Pipeline

end QualityGate
