/-
The checks that analyse sources.

Four checks report what an analysis finds in each source.  `Analyzer` names them, each with what can
be set for it, and gives the parts that its check is put together from (`check_eq_ofSources`).  For a
project with an absolute path such a check has a single result, which is the aggregate of what is
found in all sources (`value_run`).
-/
import QualityGate.Check.Docstring
import QualityGate.Check.Naming

namespace QualityGate

theorem Path.not_isAbsolute_of_empty {p : Path} (h : p.text = "") : p.isAbsolute = false := by
  rw [Path.isAbsolute, Path.chars, h]
  rfl

theorem Context.requireProject_of_isAbsolute {ctx : Context} (h : ctx.project.isAbsolute = true) :
    ctx.requireProject = .ok ctx.project := by
  have hne : ctx.project.text ≠ "" := by
    intro hempty
    rw [Path.not_isAbsolute_of_empty hempty] at h
    cases h
  exact (if_neg hne).trans (if_pos h)

/-- For a project with an absolute path a check of the project does what stands behind its test. -/
theorem Check.run_ofProject_of_isAbsolute (name : String) (run : Context → Path → Traced CheckResult)
    {ctx : Context} (h : ctx.project.isAbsolute = true) :
    (ofProject name run).run ctx =
      run ctx ctx.project >>= fun result => pure (.results [result]) := by
  simp only [ofProject, Context.requireProject_of_isAbsolute h]

/-! ### Findings in a tree -/

namespace Check

variable {shown : Path} {tree : Python.Tree} {f : Finding}

/-- A finding about the length of a function is about an element of the file that is shown. -/
theorem of_mem_longFunctions {limit : Nat}
    (h : f ∈ tree.visit.filterMap (longFunction? limit shown)) : f.path = shown ∧ f.element ≠ none := by
  obtain ⟨t, -, ht⟩ := List.mem_filterMap.1 h
  rw [longFunction?] at ht
  split at ht
  · obtain rfl := Option.some.inj ht
    exact ⟨rfl, nofun⟩
  · cases ht

/-- A finding about a docstring is about an element of the file that is shown. -/
theorem of_mem_undocumented {scope : DocstringScope} (h : f ∈ undocumented scope shown tree) :
    f.path = shown ∧ f.element ≠ none := by
  -- the findings about definitions come behind the one about the module, or alone
  have hinside (h : f ∈ tree.definitions.filterMap (undocumented? scope shown)) :
      f.path = shown ∧ f.element ≠ none := by
    obtain ⟨t, -, ht⟩ := List.mem_filterMap.1 h
    rw [undocumented?] at ht
    split at ht
    · obtain rfl := Option.some.inj ht
      exact ⟨rfl, nofun⟩
    · cases ht
  rw [undocumented] at h
  split at h
  · exact hinside h
  · rcases List.mem_cons.1 h with rfl | h
    · exact ⟨rfl, nofun⟩
    · exact hinside h

end Check

/-! ### Analyses -/

/-- The checks that analyse sources, each with what can be set for it. -/
inductive Analyzer where
  | naming
  | fileLength (limit : Nat)
  | functionLength (limit : Nat)
  | docstring (scope : Check.DocstringScope)

namespace Analyzer

/-- The check itself. -/
def check : Analyzer → Check
  | naming => Check.naming
  | fileLength limit => Check.fileLength limit
  | functionLength limit => Check.functionLength limit
  | docstring scope => Check.docstring scope

/-- The name of the check. -/
def name : Analyzer → String
  | naming => CheckName.naming
  | fileLength _ => CheckName.fileLength
  | functionLength _ => CheckName.functionLength
  | docstring _ => CheckName.docstring

/-- What is said before the findings. -/
def header : Analyzer → String
  | naming => "Naming convention issues found:"
  | fileLength limit => "Files exceeding the maximum length of " ++ limit.repr ++ " lines:"
  | functionLength limit => "Functions exceeding the maximum length of " ++ limit.repr ++ " lines:"
  | docstring _ => "Missing docstrings found:"

/-- What is said where nothing is found. -/
def pass : Analyzer → String
  | naming => "All code follows naming conventions."
  | fileLength limit => "All files are under the maximum length of " ++ limit.repr ++ " lines."
  | functionLength limit => "All functions are under " ++ limit.repr ++ " lines"
  | docstring _ => "All modules, classes, and functions have docstrings."

/-- What is found in one source. -/
def analyse : Analyzer → Context → Path → List Finding
  | naming => Check.misnamed
  | fileLength limit => Check.longFile limit
  | functionLength limit =>
    Check.inModule fun shown tree => tree.visit.filterMap (Check.longFunction? limit shown)
  | docstring scope => Check.undocumentedIn scope

theorem check_eq_ofSources (a : Analyzer) :
    a.check = Check.ofSources a.name a.header a.pass a.analyse := by
  cases a <;> rfl

/-- What is found in all sources. -/
def findings (a : Analyzer) (ctx : Context) : List Finding :=
  ctx.sources.value.flatMap (a.analyse ctx)

/-- For a project with an absolute path the check has one result, from all findings. -/
theorem value_run (a : Analyzer) {ctx : Context} (h : ctx.project.isAbsolute = true) :
    (a.check.run ctx).value = .results [aggregate a.name a.header a.pass (a.findings ctx)] := by
  rw [check_eq_ofSources, Check.ofSources, Check.run_ofProject_of_isAbsolute _ _ h]
  rfl

end Analyzer

end QualityGate
