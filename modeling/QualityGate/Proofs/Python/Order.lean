/-
Trees whose nodes stand in the order of the text.

In an ordered tree no node ends before it starts, children lie within their node, and each of them ends
before the next one starts.  Then everything below a node lies within it (`IsOrdered.within`), and the
nodes in preorder start one after the other (`IsOrdered.pairwise_first`).

The last line of a node is the greatest of those on which its tokens end (`lastLine_le_iff`).  It is
never before the first line, and a node inside another has no more lines than that one
(`IsOrdered.span_le_span`).
-/
import QualityGate.Proofs.Python.Traversal
import QualityGate.Python.Module

namespace QualityGate.Python

/-! ### Places -/

namespace Point

/-- A place comes before another on an earlier row, or on the same row in no later column. -/
instance : LE Point where
  le p q := p.row < q.row ∨ p.row = q.row ∧ p.column ≤ q.column

instance (p q : Point) : Decidable (p ≤ q) :=
  inferInstanceAs (Decidable (p.row < q.row ∨ p.row = q.row ∧ p.column ≤ q.column))

theorem le_iff {p q : Point} : p ≤ q ↔ p.row < q.row ∨ p.row = q.row ∧ p.column ≤ q.column :=
  Iff.rfl

theorem le_refl (p : Point) : p ≤ p := by
  rw [le_iff]
  omega

theorem le_trans {p q r : Point} (hpq : p ≤ q) (hqr : q ≤ r) : p ≤ r := by
  rw [le_iff] at *
  omega

theorem row_le_of_le {p q : Point} (h : p ≤ q) : p.row ≤ q.row := by
  rw [le_iff] at h
  omega

end Point

namespace Tree

/-! ### Ordered trees -/

/-- No node ends before it starts, children lie within their node, and they stand one behind the
other. -/
structure IsOrdered (tree : Tree) : Prop where
  forward : ∀ t ∈ tree.preorder, t.first ≤ t.last
  nested : ∀ t ∈ tree.preorder, ∀ c ∈ t.children, t.first ≤ c.first ∧ c.last ≤ t.last
  ordered : ∀ t ∈ tree.preorder, t.children.Pairwise fun a b => a.last ≤ b.first

instance (tree : Tree) : Decidable tree.IsOrdered :=
  decidable_of_iff
    ((∀ t ∈ tree.preorder, t.first ≤ t.last) ∧
      (∀ t ∈ tree.preorder, ∀ c ∈ t.children, t.first ≤ c.first ∧ c.last ≤ t.last) ∧
      ∀ t ∈ tree.preorder, t.children.Pairwise fun a b => a.last ≤ b.first)
    ⟨fun h => ⟨h.1, h.2.1, h.2.2⟩, fun h => ⟨h.forward, h.nested, h.ordered⟩⟩

namespace IsOrdered

variable {s t tree : Tree}

theorem of_mem (h : tree.IsOrdered) (ht : t ∈ tree.preorder) : t.IsOrdered where
  forward s hs := h.forward s (mem_preorder_trans hs ht)
  nested s hs := h.nested s (mem_preorder_trans hs ht)
  ordered s hs := h.ordered s (mem_preorder_trans hs ht)

/-- What is below a node lies within it. -/
theorem within (h : t.IsOrdered) (hs : s ∈ t.preorder) : t.first ≤ s.first ∧ s.last ≤ t.last := by
  induction t using induction_on_children with
  | step t ih =>
    have hself := self_mem_preorder t
    rw [preorder_eq_cons] at hs
    rcases List.mem_cons.1 hs with rfl | hs
    · exact ⟨Point.le_refl _, Point.le_refl _⟩
    · obtain ⟨c, hc, hs⟩ := List.mem_flatMap.1 hs
      obtain ⟨hfirst, hlast⟩ := h.nested t hself c hc
      obtain ⟨hfirst', hlast'⟩ := ih c hc (h.of_mem (mem_preorder_of_mem_children hc)) hs
      exact ⟨Point.le_trans hfirst hfirst', Point.le_trans hlast' hlast⟩

/-- In preorder the nodes start one after the other. -/
theorem pairwise_first (h : t.IsOrdered) : t.preorder.Pairwise fun a b => a.first ≤ b.first := by
  induction t using induction_on_children with
  | step t ih =>
    have hself := self_mem_preorder t
    have hchild (c : Tree) (hc : c ∈ t.children) : c.IsOrdered :=
      h.of_mem (mem_preorder_of_mem_children hc)
    have hbelow : (t.children.flatMap preorder).Pairwise fun a b => a.first ≤ b.first := by
      rw [List.pairwise_flatMap]
      refine ⟨fun c hc => ih c hc (hchild c hc), ?_⟩
      -- what is below a child starts before the child ends, and so before the next one starts
      apply (h.ordered t hself).imp_of_mem
      intro c d hc hd hcd x hx y hy
      have hx' := (hchild c hc).within hx
      have hy' := (hchild d hd).within hy
      have hforward := h.forward x (mem_preorder_trans hx (mem_preorder_of_mem_children hc))
      exact Point.le_trans hforward (Point.le_trans hx'.2 (Point.le_trans hcd hy'.1))
    rw [preorder_eq_cons, List.pairwise_cons]
    refine ⟨fun s hs => (h.within ?_).1, hbelow⟩
    rw [preorder_eq_cons]
    exact List.mem_cons_of_mem _ hs

end IsOrdered

/-! ### Lines -/

theorem foldl_max_le_iff {leaves : List Tree} {start n : Nat} :
    leaves.foldl (fun line leaf => max line leaf.endLine) start ≤ n ↔
      start ≤ n ∧ ∀ leaf ∈ leaves, leaf.endLine ≤ n := by
  induction leaves generalizing start with
  | nil => simp
  | cons leaf rest ih =>
    rw [List.foldl_cons, ih, Nat.max_le, List.forall_mem_cons, and_assoc]

/-- The last line is the least that the first line and the ends of all tokens do not exceed. -/
theorem lastLine_le_iff {t : Tree} {n : Nat} :
    t.lastLine ≤ n ↔
      t.firstLine ≤ n ∧ ∀ leaf ∈ t.preorder, leaf.isToken = true → leaf.endLine ≤ n := by
  rw [lastLine, visit_eq_preorder, foldl_max_le_iff]
  simp only [List.mem_filter, and_imp]

theorem firstLine_le_lastLine (t : Tree) : t.firstLine ≤ t.lastLine :=
  (lastLine_le_iff.1 (Nat.le_refl _)).1

theorem endLine_le_lastLine {leaf t : Tree} (h : leaf ∈ t.preorder) (htoken : leaf.isToken = true) :
    leaf.endLine ≤ t.lastLine :=
  (lastLine_le_iff.1 (Nat.le_refl _)).2 leaf h htoken

/-- The lines of a node are counted from its first to its last. -/
theorem firstLine_add_span (t : Tree) : t.firstLine + t.span = t.lastLine + 1 := by
  have hle := firstLine_le_lastLine t
  rw [span]
  omega

/-- A node inside another has no more lines than that one: its tokens are tokens of both. -/
theorem IsOrdered.span_le_span {s t : Tree} (h : t.IsOrdered) (hs : s ∈ t.preorder) :
    s.span ≤ t.span := by
  have hfirst : t.firstLine ≤ s.firstLine :=
    Nat.succ_le_succ (Point.row_le_of_le (h.within hs).1)
  -- a leaf below the subtree is one below the tree
  have hlast : s.lastLine ≤ max s.firstLine t.lastLine := by
    rw [lastLine_le_iff]
    refine ⟨Nat.le_max_left _ _, fun leaf hleaf htoken => ?_⟩
    exact Nat.le_trans (endLine_le_lastLine (mem_preorder_trans hleaf hs) htoken) (Nat.le_max_right _ _)
  have hspan := firstLine_add_span s
  have hspan' := firstLine_add_span t
  have hpos := firstLine_le_lastLine t
  omega

end Tree

end QualityGate.Python
