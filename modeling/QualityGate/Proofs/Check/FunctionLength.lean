/-
Which functions are reported as too long.

The walk of the check meets every node once, so what it reports are the definitions of functions with
more lines than the limit, in the order of the text (`filterMap_longFunction?`).  A limit that is greater
reports a part of them (`longFunctions_sublist_of_le`).

In an ordered tree a function has at least as many lines as any function inside it, and it comes before
that one in preorder; so an inner function is never reported without the outer one, and the outer one is
reported first (`pair_sublist_longFunctions`).
-/
import Mathlib.Data.List.Basic
import QualityGate.Proofs.Check.Analyzer
import QualityGate.Proofs.Python.Order

namespace QualityGate

namespace Python.Tree

/-- The definition of a function with more lines than the limit. -/
def isLong (limit : Nat) (t : Tree) : Bool :=
  t.kind = .functionDefinition ∧ limit < t.lastLine - t.firstLine + 1

/-- The long functions of a tree, in the order of the text. -/
def longFunctions (limit : Nat) (tree : Tree) : List Tree :=
  tree.preorder.filter (isLong limit)

variable {limit limit' : Nat} {t tree outer inner : Tree}

theorem isLong_iff : t.isLong limit = true ↔ t.kind = .functionDefinition ∧ limit < t.span := by
  rw [isLong, decide_eq_true_eq]
  rfl

/-- A greater limit leaves a part of the functions. -/
theorem longFunctions_sublist_of_le (h : limit ≤ limit') :
    (tree.longFunctions limit').Sublist (tree.longFunctions limit) := by
  apply List.monotone_filter_right
  intro t ht
  obtain ⟨hkind, hspan⟩ := isLong_iff.1 ht
  exact isLong_iff.2 ⟨hkind, Nat.lt_of_le_of_lt h hspan⟩

/-- A node comes before what is below it. -/
theorem pair_sublist_preorder (houter : outer ∈ tree.preorder)
    (hinner : inner ∈ preorderAll outer.children) : [outer, inner].Sublist tree.preorder := by
  have hpair : [outer, inner].Sublist outer.preorder := by
    rw [preorder_eq]
    exact (List.singleton_sublist.2 hinner).cons_cons outer
  exact hpair.trans (preorder_sublist houter)

/-- A function around a long one has at least as many lines, and comes first. -/
theorem pair_sublist_longFunctions (h : tree.IsOrdered) (houter : outer ∈ tree.preorder)
    (hkind : outer.kind = .functionDefinition) (hinner : inner ∈ preorderAll outer.children)
    (hlong : inner ∈ tree.longFunctions limit) :
    inner.span ≤ outer.span ∧ [outer, inner].Sublist (tree.longFunctions limit) := by
  have hbelow : inner ∈ outer.preorder := by
    rw [preorder_eq]
    exact List.mem_cons_of_mem _ hinner
  have hspan : inner.span ≤ outer.span := (h.of_mem houter).span_le_span hbelow
  have hinner' : inner.isLong limit = true := (List.mem_filter.1 hlong).2
  have houter' : outer.isLong limit = true :=
    isLong_iff.2 ⟨hkind, Nat.lt_of_lt_of_le (isLong_iff.1 hinner').2 hspan⟩
  -- both of the pair are kept, so the pair stays a part of what is kept
  have hpair := (pair_sublist_preorder houter hinner).filter (isLong limit)
  rw [List.filter_cons_of_pos houter', List.filter_cons_of_pos hinner', List.filter_nil] at hpair
  exact ⟨hspan, hpair⟩

end Python.Tree

namespace Check

open Python (Tree)

/-- What is said of a function that is too long. -/
def tooLong (limit : Nat) (shown : Path) (t : Tree) : Finding where
  path := shown
  line := some t.firstLine
  element := some ⟨if t.isAsync then .asyncFunction else .function, some t.name⟩
  message := "function '" ++ t.name ++ "' is " ++ (t.lastLine - t.firstLine + 1).repr ++
    " lines (max " ++ limit.repr ++ ")"

theorem longFunction?_eq (limit : Nat) (shown : Path) (t : Tree) :
    longFunction? limit shown t = if t.isLong limit then some (tooLong limit shown t) else none := by
  rw [longFunction?]
  by_cases hlong : t.kind = .functionDefinition ∧ limit < t.span
  · have hkind : kindOf t = if t.isAsync then .asyncFunction else .function := by
      rw [kindOf, hlong.1]
      rfl
    rw [if_pos hlong, if_pos (Tree.isLong_iff.2 hlong), hkind]
    rfl
  · rw [if_neg hlong, if_neg (mt Tree.isLong_iff.1 hlong)]

/-- The walk over a tree reports each of its long functions. -/
theorem filterMap_longFunction? (limit : Nat) (shown : Path) (tree : Tree) :
    tree.visit.filterMap (longFunction? limit shown) =
      (tree.longFunctions limit).map (tooLong limit shown) := by
  rw [Tree.visit_eq_preorder, Tree.longFunctions, ← List.filterMap_eq_map, List.filterMap_filter]
  apply List.filterMap_congr
  intro t _
  exact longFunction?_eq limit shown t

/-- In an ordered tree the check of function lengths reports exactly the functions with more lines than
the limit, each with its lines and in the order of the text.  No function ends before it starts.  The
function around a reported one is reported too, before it and with at least as many lines, and a greater
limit leaves a part of what is reported. -/
theorem reports_long_functions (tree : Tree) (h : tree.IsOrdered) (limit : Nat) :
    (∀ shown, tree.visit.filterMap (longFunction? limit shown) =
      (tree.longFunctions limit).map (tooLong limit shown)) ∧
    (∀ ctx path, ctx.readModule path = .ok tree →
      (Analyzer.functionLength limit).analyse ctx path =
        (tree.longFunctions limit).map (tooLong limit (ctx.shown path))) ∧
    ((tree.longFunctions limit).Pairwise fun s t => s.first ≤ t.first) ∧
    (∀ t ∈ tree.preorder, t.firstLine ≤ t.lastLine) ∧
    (∀ outer ∈ tree.preorder, outer.kind = .functionDefinition →
      ∀ inner ∈ Tree.preorderAll outer.children, inner ∈ tree.longFunctions limit →
        inner.span ≤ outer.span ∧ [outer, inner].Sublist (tree.longFunctions limit)) ∧
    ∀ limit', limit ≤ limit' →
      (tree.longFunctions limit').Sublist (tree.longFunctions limit) := by
  refine ⟨fun shown => filterMap_longFunction? limit shown tree, ?_, ?_, ?_, ?_, ?_⟩
  · intro ctx path hmodule
    rw [Analyzer.analyse, inModule, hmodule]
    exact filterMap_longFunction? limit (ctx.shown path) tree
  · exact h.pairwise_first.filter _
  · exact fun t _ => t.firstLine_le_lastLine
  · intro outer houter hkind inner hinner hlong
    exact Tree.pair_sublist_longFunctions h houter hkind hinner hlong
  · exact fun limit' hle => Tree.longFunctions_sublist_of_le hle

/-- Two functions, one inside the other, are both longer than two lines. -/
theorem reports_nested_functions :
    let tree := Tree.ofText "def f():\n def g():\n  1\n  2\n\n".toList
    tree.IsOrdered ∧
      (tree.visit.filterMap (longFunction? 2 ⟨"m.py"⟩)).map Finding.display =
        ["m.py:1 - function 'f' is 4 lines (max 2)", "m.py:2 - function 'g' is 3 lines (max 2)"] := by
  intro tree
  have h : tree.IsOrdered := by decide +kernel
  refine ⟨h, ?_⟩
  rw [(reports_long_functions tree h 2).1]
  decide +kernel

end Check

end QualityGate
