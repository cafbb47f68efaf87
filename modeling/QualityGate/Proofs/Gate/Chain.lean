/-
How a chain ends.

A check of a chain gives results, or it ends the chain: with a failure, or by a breakdown.
`Chain.Ends ctx chain ran outcome` says how a chain ends without running it.  Either all of its checks
give results, and `outcome` are all of them in their order; or some check does not while all before it
do, and `outcome` is what that check came to.  `ran` are the checks that run: all of them, or those up
to the one that ended the chain.

Every chain ends in one of these ways (`exists_ends`), and running it does what the checks in `ran` do,
one after another, and nothing else (`execute_of_ends`).

Chains compose: behind a chain that gives results another one runs as it would alone, with those
results put before its own; behind any other it does not run (`execute_append`).
-/
import QualityGate.Proofs.Gate.Pipeline

namespace QualityGate

attribute [ext] Traced

namespace Check

variable {ctx : Context} {check : Check} {results : List CheckResult}

/-- The check ends with results, which may be none. -/
def GivesResults (ctx : Context) (check : Check) : Prop :=
  ∃ results, (check.run ctx).value = .results results

/-- The results that the check gives, none if it ends otherwise. -/
def resultsIn (ctx : Context) (check : Check) : List CheckResult :=
  match (check.run ctx).value with
  | .results results => results
  | _ => []

/-- What the check does. -/
def eventsIn (ctx : Context) (check : Check) : List Event :=
  (check.run ctx).events

/-- The tools that the check calls. -/
def callsIn (ctx : Context) (check : Check) : List ToolCall :=
  (check.run ctx).calls

theorem resultsIn_eq (h : (check.run ctx).value = .results results) :
    check.resultsIn ctx = results := by
  rw [resultsIn, h]

end Check

/-! ### Outcomes behind results -/

namespace Outcome

@[simp] theorem behind_nil (outcome : Outcome) : outcome.behind [] = outcome := by
  cases outcome <;> rfl

/-- Results that are put before an outcome can be put there in two parts. -/
theorem behind_append (first second : List CheckResult) (outcome : Outcome) :
    outcome.behind (first ++ second) = (outcome.behind second).behind first := by
  cases outcome with
  | results after => exact congrArg Outcome.results (List.append_assoc first second after)
  | failure cause => rfl
  | breakdown => rfl

/-- Results are put before results only. -/
theorem behind_of_not_results {outcome : Outcome} (h : ∀ after, outcome ≠ .results after)
    (before : List CheckResult) : outcome.behind before = outcome := by
  cases outcome with
  | results after => exact absurd rfl (h after)
  | failure cause => rfl
  | breakdown => rfl

end Outcome

namespace Chain

variable {ctx : Context} {chain ran before after rest : Chain} {link : Check} {outcome : Outcome}

/-! ### The first check of a chain -/

/-- Behind a check that gives results the chain goes on. -/
theorem execute_cons_of_results {results : List CheckResult}
    (h : (link.run ctx).value = .results results) (rest : Chain) :
    execute (link :: rest) ctx =
      ⟨link.eventsIn ctx ++ (execute rest ctx).events, (execute rest ctx).value.behind results⟩ := by
  apply Traced.ext
  · rw [execute, Traced.events_bind, h]
    show link.eventsIn ctx ++ ((execute rest ctx).events ++ []) = _
    rw [List.append_nil]
  · rw [execute, Traced.value_bind, h]
    rfl

/-- A check that gives no results ends the chain. -/
theorem execute_cons_of_not (h : ¬ link.GivesResults ctx) (rest : Chain) :
    execute (link :: rest) ctx = link.run ctx := by
  rcases hvalue : (link.run ctx).value with results | cause | -
  · exact absurd ⟨results, hvalue⟩ h
  all_goals
    apply Traced.ext
    · rw [execute, Traced.events_bind, hvalue]
      exact List.append_nil _
    · rw [execute, Traced.value_bind, hvalue]
      rfl

/-! ### A chain behind a chain -/

/-- Behind a chain that gives results another one runs, with those results before its own; behind any
other chain it does not run. -/
theorem execute_append (first second : Chain) (ctx : Context) :
    execute (first ++ second) ctx =
      match (execute first ctx).value with
      | .results results =>
        ⟨(execute first ctx).events ++ (execute second ctx).events,
          (execute second ctx).value.behind results⟩
      | _ => execute first ctx := by
  induction first with
  | nil =>
    show execute second ctx = ⟨[] ++ _, _⟩
    rw [List.nil_append, Outcome.behind_nil]
  | cons link rest ih =>
    rw [List.cons_append]
    by_cases h : link.GivesResults ctx
    · obtain ⟨results, hvalue⟩ := h
      rw [execute_cons_of_results hvalue, execute_cons_of_results hvalue, ih]
      -- what the rest of the first chain comes to decides both sides
      rcases hrest : (execute rest ctx).value with more | cause | -
      · show Traced.mk _ _ = Traced.mk (_ ++ _ ++ _) (Outcome.behind (results ++ more) _)
        rw [Outcome.behind_append, List.append_assoc]
      all_goals
        show Traced.mk (_ ++ (execute rest ctx).events) ((execute rest ctx).value.behind results) = _
        rw [hrest]
        rfl
    · rw [execute_cons_of_not h, execute_cons_of_not h]
      rcases hvalue : (link.run ctx).value with results | cause | -
      · exact absurd ⟨results, hvalue⟩ h
      · rfl
      · rfl

/-! ### How a chain ends -/

/-- How a chain ends: the checks of it that run, and what it comes to. -/
inductive Ends (ctx : Context) : Chain → Chain → Outcome → Prop
  | complete {chain : Chain} :
      (∀ link ∈ chain, link.GivesResults ctx) →
      Ends ctx chain chain (.results (chain.flatMap (Check.resultsIn ctx)))
  | decided {before after : Chain} {link : Check} :
      (∀ earlier ∈ before, earlier.GivesResults ctx) → ¬ link.GivesResults ctx →
      Ends ctx (before ++ link :: after) (before ++ [link]) (link.run ctx).value

/-- Every chain ends somewhere: at its first link that gives no results, or behind its last one. -/
theorem exists_ends (ctx : Context) (chain : Chain) : ∃ ran outcome, Ends ctx chain ran outcome := by
  induction chain with
  | nil => exact ⟨_, _, .complete (List.forall_mem_nil _)⟩
  | cons link rest ih =>
    by_cases h : link.GivesResults ctx
    · obtain ⟨ran, outcome, hrest⟩ := ih
      cases hrest with
      | complete hall => exact ⟨_, _, .complete (List.forall_mem_cons.2 ⟨h, hall⟩)⟩
      | decided hbefore hlink =>
        rw [← List.cons_append]
        exact ⟨_, _, .decided (List.forall_mem_cons.2 ⟨h, hbefore⟩) hlink⟩
    · exact ⟨_, _, .decided (List.forall_mem_nil _) h⟩

/-- Checks that all give results are all run, and their results are put together. -/
theorem execute_of_all (h : ∀ link ∈ chain, link.GivesResults ctx) :
    execute chain ctx =
      ⟨chain.flatMap (Check.eventsIn ctx), .results (chain.flatMap (Check.resultsIn ctx))⟩ := by
  induction chain with
  | nil => rfl
  | cons link rest ih =>
    obtain ⟨⟨results, hvalue⟩, hrest⟩ := List.forall_mem_cons.1 h
    rw [execute_cons_of_results hvalue, ih hrest, List.flatMap_cons, List.flatMap_cons,
      Check.resultsIn_eq hvalue]
    rfl

/-- Running a chain does what the checks that run do, in their order, and comes to its end. -/
theorem execute_of_ends (h : Ends ctx chain ran outcome) :
    execute chain ctx = ⟨ran.flatMap (Check.eventsIn ctx), outcome⟩ := by
  cases h with
  | complete hall => exact execute_of_all hall
  | @decided before after link hbefore hlink =>
    have hvalue : ∀ results, (link.run ctx).value ≠ .results results :=
      fun results hresults => hlink ⟨results, hresults⟩
    rw [execute_append, execute_of_all hbefore, execute_cons_of_not hlink, List.flatMap_append,
      List.flatMap_singleton]
    show Traced.mk _ ((link.run ctx).value.behind _) = _
    rw [Outcome.behind_of_not_results hvalue]
    rfl

end Chain

/-! ### Runs -/

namespace Pipeline

variable {p : Pipeline} {d : Disk} {chain : Chain}

/-- How a run ends whose chain came to an outcome. -/
def ending (p : Pipeline) (d : Disk) : Outcome → Except Failure RunSummary
  | .results results => .ok ⟨results, p.sourceDirs d, verdict results⟩
  | .failure cause => .error cause
  | .breakdown => .error (.internal "check panicked")

theorem value_runChain (p : Pipeline) (d : Disk) (chain : Chain) :
    (p.runChain d chain).value = p.ending d (chain.execute (p.context d)).value := by
  rcases hexecute : (chain.execute (p.context d)).value with results | cause | -
  · exact value_runChain_of_results hexecute
  · exact value_runChain_of_failure hexecute
  · exact value_runChain_of_breakdown hexecute

/-- A run calls the tools that its chain calls. -/
theorem calls_runChain (p : Pipeline) (d : Disk) (chain : Chain) :
    (p.runChain d chain).calls = (chain.execute (p.context d)).calls := by
  have hopening : (Traced.tell (.info (p.opening chain))).calls = [] := rfl
  rw [runChain, Traced.calls_bind, Traced.calls_bind, Traced.calls_bind, Traced.calls_warn, hopening,
    List.nil_append, List.nil_append]
  rcases (chain.execute (p.context d)).value with results | cause | -
  all_goals exact List.append_nil _

/-- The calls of a run are those of the checks that ran, in their order. -/
theorem calls_of_ends {ran : Chain} {outcome : Outcome} (h : chain.Ends (p.context d) ran outcome) :
    (p.runChain d chain).calls = ran.flatMap (Check.callsIn (p.context d)) := by
  rw [calls_runChain, Traced.calls, Chain.execute_of_ends h, List.filterMap_flatMap]
  rfl

/-- The first check that does not give results decides a run, and all checks decide it together if all
of them do.  The checks up to the one that decides are run, each once and in their order, and no tool
is called for any other.  A chain behind another one runs exactly if that one gives results. -/
theorem run_decided_by_first_link (p : Pipeline) (d : Disk) :
    (∀ chain : Chain, ∃ ran outcome, chain.Ends (p.context d) ran outcome ∧
      chain.execute (p.context d) = ⟨ran.flatMap (Check.eventsIn (p.context d)), outcome⟩ ∧
      (p.runChain d chain).calls = ran.flatMap (Check.callsIn (p.context d)) ∧
      (p.runChain d chain).value =
        match outcome with
        | .results results => .ok ⟨results, p.sourceDirs d, verdict results⟩
        | .failure cause => .error cause
        | .breakdown => .error (.internal "check panicked")) ∧
    ∀ (first second : Chain) (ctx : Context),
      (first ++ second).execute ctx =
        match (first.execute ctx).value with
        | .results results =>
          ⟨(first.execute ctx).events ++ (second.execute ctx).events,
            (second.execute ctx).value.behind results⟩
        | _ => first.execute ctx := by
  refine ⟨fun chain => ?_, Chain.execute_append⟩
  obtain ⟨ran, outcome, hends⟩ := Chain.exists_ends (p.context d) chain
  have hexecute := Chain.execute_of_ends hends
  refine ⟨ran, outcome, hends, hexecute, calls_of_ends hends, ?_⟩
  rw [value_runChain, hexecute]
  cases outcome <;> rfl

end Pipeline

end QualityGate
