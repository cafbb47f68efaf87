/-
What a walk over a tree meets.

`preorder` is given by recursion over a node and the nodes below it.  Its list is the node, followed by
the lists of its children (`preorder_eq_cons`), so a node that is met brings everything below it with it
(`preorder_sublist`).

The cursor moves without recursion.  What it has ahead is what is below its node, and then what stands to
the right on the levels that it has gone down (`visitFrom_eq`).  Climbing leads to the next of these
nodes, so a walk from a node meets the list of that node and nothing else (`visit_eq_preorder`).
-/
import QualityGate.Python.Cursor

namespace QualityGate.Python

namespace Tree

/-! ### Nodes below a node -/

theorem preorderAll_eq_flatMap (ts : List Tree) : preorderAll ts = ts.flatMap preorder := by
  induction ts with
  | nil => rfl
  | cons t rest ih =>
    rw [preorderAll, List.flatMap_cons, ih]

theorem preorder_eq_cons (t : Tree) : t.preorder = t :: t.children.flatMap preorder := by
  rw [preorder_eq, preorderAll_eq_flatMap]

theorem self_mem_preorder (t : Tree) : t ∈ t.preorder := by
  rw [preorder_eq_cons]
  exact List.mem_cons_self

theorem size_le_sizeAll {c : Tree} {ts : List Tree} (h : c ∈ ts) : c.size ≤ sizeAll ts := by
  induction ts with
  | nil => cases h
  | cons t rest ih =>
    rw [sizeAll]
    rcases List.mem_cons.1 h with rfl | h
    · exact Nat.le_add_right _ _
    · exact Nat.le_add_left_of_le (ih h)

/-- What holds of a node if it holds of its children holds of every node. -/
theorem induction_on_children {motive : Tree → Prop}
    (step : ∀ t, (∀ c ∈ t.children, motive c) → motive t) (t : Tree) : motive t := by
  induction hsize : t.size using Nat.strongRecOn generalizing t with
  | _ size ih =>
    apply step
    intro c hc
    have hlt : c.size < size := by
      have hle := size_le_sizeAll hc
      rw [← hsize, size_eq t]
      omega
    exact ih c.size hlt c rfl

/-- A node that is met in a tree brings everything below it, in the same order. -/
theorem preorder_sublist {s t : Tree} (h : s ∈ t.preorder) : s.preorder.Sublist t.preorder := by
  induction t using induction_on_children with
  | step t ih =>
    rw [preorder_eq_cons] at h
    rcases List.mem_cons.1 h with rfl | h
    · exact List.Sublist.refl _
    · obtain ⟨c, hc, hs⟩ := List.mem_flatMap.1 h
      have hblock : c.preorder.Sublist (t.children.flatMap preorder) :=
        List.sublist_flatten_of_mem (List.mem_map_of_mem hc)
      rw [preorder_eq_cons t]
      exact ((ih c hc hs).trans hblock).cons t

theorem mem_preorder_trans {r s t : Tree} (hr : r ∈ s.preorder) (hs : s ∈ t.preorder) :
    r ∈ t.preorder :=
  (preorder_sublist hs).mem hr

theorem mem_preorder_of_mem_children {c t : Tree} (h : c ∈ t.children) : c ∈ t.preorder := by
  rw [preorder_eq_cons]
  exact List.mem_cons_of_mem _ (List.mem_flatMap.2 ⟨c, h, self_mem_preorder c⟩)

end Tree

/-! ### The walk of a cursor -/

namespace Cursor

/-- The nodes to the right on the nearest `depth` levels, each with everything below it. -/
def rightNodes : Nat → List Level → List Tree
  | 0, _ => []
  | _, [] => []
  | depth + 1, l :: levels => Tree.preorderAll l.right ++ rightNodes depth levels

theorem focus_of_firstChild {c d : Cursor} (depth : Nat) (h : c.firstChild? = some d) :
    c.focus.preorder ++ rightNodes depth c.levels =
      c.focus :: (d.focus.preorder ++ rightNodes (depth + 1) d.levels) := by
  unfold firstChild? at h
  split at h
  · cases h
  · next t rest hchildren =>
    obtain rfl := Option.some.inj h
    rw [Tree.preorder_eq c.focus, hchildren, Tree.preorderAll, rightNodes, List.cons_append,
      List.append_assoc]

theorem focus_of_no_child {c : Cursor} (h : c.firstChild? = none) :
    c.focus.preorder = [c.focus] := by
  unfold firstChild? at h
  split at h
  · next hchildren => rw [Tree.preorder_eq, hchildren, Tree.preorderAll]
  · cases h

theorem rightNodes_of_nextSibling {c d : Cursor} (depth : Nat) (h : c.nextSibling? = some d) :
    d.focus.preorder ++ rightNodes (depth + 1) d.levels = rightNodes (depth + 1) c.levels := by
  unfold nextSibling? at h
  split at h
  · next p t rest levels hlevels =>
    obtain rfl := Option.some.inj h
    rw [hlevels, rightNodes, rightNodes, Tree.preorderAll, List.append_assoc]
  · cases h

/-- Without a sibling to the right, what is ahead is what stands to the right of the node above. -/
theorem rightNodes_of_parent {c d : Cursor} (depth : Nat) (hnext : c.nextSibling? = none)
    (h : c.parent? = some d) : rightNodes (depth + 1) c.levels = rightNodes depth d.levels := by
  unfold parent? at h
  split at h
  · cases h
  · next l levels hlevels =>
    obtain rfl := Option.some.inj h
    unfold nextSibling? at hnext
    split at hnext
    · cases hnext
    · next hright =>
      -- the level above holds no sibling, or the cursor could have gone there
      have hnone : l.right = [] := by
        rcases hcase : l.right with - | ⟨t, rest⟩
        · rfl
        · exact absurd (show c.levels = ⟨l.parent, t :: rest⟩ :: levels by rw [hlevels, ← hcase])
            (hright _ _ _ _)
      rw [hlevels, rightNodes, hnone]
      rfl

theorem rightNodes_of_no_parent {c : Cursor} (depth : Nat) (h : c.parent? = none) :
    rightNodes depth c.levels = [] := by
  unfold parent? at h
  split at h
  · next hlevels =>
    rw [hlevels]
    cases depth <;> rfl
  · cases h

/-- Climbing leads to the first of the nodes to the right, if there is one. -/
theorem rightNodes_eq_climb (depth : Nat) (c : Cursor) :
    rightNodes depth c.levels =
      match climb? depth c with
      | some (k, d) => d.focus.preorder ++ rightNodes k d.levels
      | none => [] := by
  induction depth generalizing c with
  | zero => rfl
  | succ depth ih =>
    rw [climb?]
    -- without a sibling to the right the climb goes on from the parent
    rcases hnext : c.nextSibling? with - | d
    · rcases hparent : c.parent? with - | d
      · exact rightNodes_of_no_parent _ hparent
      · rw [rightNodes_of_parent depth hnext hparent]
        exact ih d
    · exact (rightNodes_of_nextSibling depth hnext).symm

/-- A walk that has gone down some levels meets what is below its node, and then what stands to the right
on those levels. -/
theorem visitFrom_eq (depth : Nat) (c : Cursor) :
    visitFrom depth c = c.focus.preorder ++ rightNodes depth c.levels := by
  induction depth, c using visitFrom.induct with
  | case1 depth c ihChild ihClimb =>
    rw [visitFrom]
    split
    · next d hchild => rw [focus_of_firstChild depth hchild, ihChild d hchild]
    · next hchild =>
      -- nothing is below the node, so all that is ahead stands to the right
      rw [focus_of_no_child hchild, rightNodes_eq_climb, List.singleton_append]
      split
      · next k d hclimb => rw [hclimb, ihClimb k d hclimb]
      · next hclimb => rw [hclimb]

end Cursor

/-- A walk from a node meets the node and everything below it, from top to bottom and from left to
right. -/
theorem Tree.visit_eq_preorder (t : Tree) : t.visit = t.preorder := by
  rw [visit, Cursor.visit, Cursor.visitFrom_eq]
  exact List.append_nil _

end QualityGate.Python
