/-
The order of built-in checks decides only the order of their results.

Each built-in check has a single result, in which no other check has a part.  So a chain of them that is
put into another order has the same results in that order, and the same verdict and counts.  They all
refuse the same projects for the same reason, so a chain in another order is refused exactly if the first
one is (`runs_agree_up_to_order`).
-/
import Mathlib.Data.List.FinRange
import QualityGate.Proofs.Check.Builtin

namespace QualityGate

/-! ### Verdict and counts -/

/-- Results are counted alike in any order. -/
theorem Tally.ofResults_eq_of_perm {results others : List CheckResult} (h : results.Perm others) :
    Tally.ofResults results = Tally.ofResults others := by
  rw [ofResults, ofResults, h.countP_eq, h.countP_eq, h.countP_eq]

/-! ### Links at places -/

namespace Chain

variable {n : Nat} {ctx : Context}

/-- The chain of the built-in checks at the places. -/
def ofLinks (links : Fin n → Builtin) : Chain :=
  (List.ofFn links).map Builtin.check

/-- The result at a place is that of the check at the place. -/
theorem flatMap_resultsIn_ofLinks {links : Fin n → Builtin} {result : Fin n → CheckResult}
    (h : ∀ i, ((links i).check.run ctx).value = .results [result i]) :
    (ofLinks links).flatMap (Check.resultsIn ctx) = List.ofFn result := by
  rw [ofLinks, List.ofFn_eq_map, List.ofFn_eq_map, List.map_map, List.flatMap_map, List.map_eq_flatMap]
  exact congrArg (List.flatMap · _) (funext fun i => Check.resultsIn_eq (h i))

end Chain

/-! ### Runs -/

namespace Pipeline

variable {p : Pipeline} {d : Disk} {n : Nat}

/-- A run has the result of each link at the place of the link. -/
theorem value_runChain_ofLinks {links : Fin n → Builtin} {result : Fin n → CheckResult}
    (hproject : p.project.isAbsolute = true)
    (h : ∀ i, ((links i).check.run (p.context d)).value = .results [result i]) :
    (p.runChain d (.ofLinks links)).value =
      .ok ⟨List.ofFn result, p.sourceDirs d, verdict (List.ofFn result)⟩ := by
  rw [← Chain.flatMap_resultsIn_ofLinks h]
  exact value_runChain_builtins (List.ofFn links) hproject

/-- Links that refuse the project end the run for its reason, whichever comes first. -/
theorem value_runChain_ofLinks_of_error (links : Fin (n + 1) → Builtin) {cause : Failure}
    (h : (p.context d).requireProject = .error cause) :
    (p.runChain d (.ofLinks links)).value = .error cause := by
  have hne : List.ofFn links ≠ [] := by simp
  exact value_runChain_of_failure (congrArg Traced.value (Chain.execute_builtins_of_error hne h))

/-- Built-in checks in any order over any project: either the project is refused for the same reason in
both orders; or each link has the result that it has alone, the results are listed in the order of their
links, and the verdict and the counts are the same in both orders. -/
theorem runs_agree_up_to_order (p : Pipeline) (d : Disk) {n : Nat} (links : Fin n → Builtin)
    (order : Equiv.Perm (Fin n)) :
    (∃ reason, (p.runChain d (.ofLinks links)).value = .error (.context reason) ∧
      (p.runChain d (.ofLinks (links ∘ order))).value = .error (.context reason)) ∨
    ∃ (result : Fin n → CheckResult) (s t : RunSummary),
      (p.runChain d (.ofLinks links)).value = .ok s ∧
      (p.runChain d (.ofLinks (links ∘ order))).value = .ok t ∧
      (∀ i, ((links i).check.run (p.context d)).value = .results [result i]) ∧
      s.results = List.ofFn result ∧ t.results = List.ofFn (result ∘ order) ∧
      s.passed = t.passed ∧ s.counts = t.counts := by
  rcases hproject : p.project.isAbsolute with - | -
  · obtain ⟨reason, hreason⟩ := requireProject_context_of_not d hproject
    cases n with
    | zero =>
      -- without a link nothing refuses the project
      exact .inr ⟨Fin.elim0, _, _, value_runChain_of_results rfl, value_runChain_of_results rfl,
        nofun, rfl, rfl, rfl, rfl⟩
    | succ n =>
      exact .inl ⟨reason, value_runChain_ofLinks_of_error links hreason,
        value_runChain_ofLinks_of_error (links ∘ order) hreason⟩
  · right
    choose result hresult _ using fun i =>
      (links i).givesOwnResult.single (p.context d) _ (requireProject_context d hproject)
    have hperm := order.ofFn_comp_perm result
    refine ⟨result, _, _, value_runChain_ofLinks hproject hresult,
      value_runChain_ofLinks hproject fun i => hresult (order i), hresult, rfl, rfl, ?_, ?_⟩
    · exact hperm.all_eq.symm
    · exact (Tally.ofResults_eq_of_perm hperm).symm

end Pipeline

end QualityGate
