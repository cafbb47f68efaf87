/-
A walk over a tree that moves from node to node.

A cursor stands on a node and remembers, for each level above it, the node there and what stands to
the right.  `visit` goes down as long as it can, then to the right, and climbs where neither is
possible; it counts the levels that it has gone down, so it never climbs above the node it started
from.  It terminates because each step leaves fewer nodes ahead.
-/
import QualityGate.Python.Tree

namespace QualityGate.Python

/-- A level above the cursor: the node there, and the siblings to the right on the level below. -/
structure Level where
  parent : Tree
  right : List Tree

/-- A node, and the levels above it, nearest first. -/
structure Cursor where
  focus : Tree
  levels : List Level

namespace Cursor

/-- The cursor on a node, as if nothing were around it. -/
def ofTree (t : Tree) : Cursor :=
  ⟨t, []⟩

/-- The cursor on the first child. -/
def firstChild? (c : Cursor) : Option Cursor :=
  match c.focus.children with
  | [] => none
  | t :: rest => some ⟨t, ⟨c.focus, rest⟩ :: c.levels⟩

/-- The cursor on the next sibling. -/
def nextSibling? (c : Cursor) : Option Cursor :=
  match c.levels with
  | ⟨p, t :: rest⟩ :: levels => some ⟨t, ⟨p, rest⟩ :: levels⟩
  | _ => none

/-- The cursor on the node above. -/
def parent? (c : Cursor) : Option Cursor :=
  match c.levels with
  | [] => none
  | l :: levels => some ⟨l.parent, levels⟩

/-- Climbs, at most `depth` levels, to the first node with a next sibling, and goes there. -/
def climb? : Nat → Cursor → Option (Nat × Cursor)
  | 0, _ => none
  | depth + 1, c =>
    match c.nextSibling? with
    | some d => some (depth + 1, d)
    | none =>
      match c.parent? with
      | some d => climb? depth d
      | none => none

/-- Number of nodes to the right on the nearest `depth` levels. -/
def rightSize : Nat → List Level → Nat
  | 0, _ => 0
  | _, [] => 0
  | depth + 1, l :: levels => Tree.sizeAll l.right + rightSize depth levels

/-- Number of nodes that a walk from the cursor still has ahead. -/
def ahead (depth : Nat) (c : Cursor) : Nat :=
  c.focus.size + rightSize depth c.levels

theorem ahead_firstChild {c d : Cursor} (depth : Nat) (h : c.firstChild? = some d) :
    ahead (depth + 1) d < ahead depth c := by
  unfold firstChild? at h
  split at h
  · simp at h
  · next t rest hc =>
    obtain rfl := Option.some.inj h
    simp only [ahead, rightSize, Tree.size_eq c.focus, hc, Tree.sizeAll]
    omega

theorem rightSize_of_nextSibling {c d : Cursor} (depth : Nat) (h : c.nextSibling? = some d) :
    ahead (depth + 1) d = rightSize (depth + 1) c.levels := by
  unfold nextSibling? at h
  split at h
  · next p t rest levels hc =>
    obtain rfl := Option.some.inj h
    simp only [ahead, hc, rightSize, Tree.sizeAll]
    omega
  · simp at h

theorem rightSize_of_parent {c d : Cursor} (depth : Nat) (h : c.parent? = some d) :
    rightSize depth d.levels ≤ rightSize (depth + 1) c.levels := by
  unfold parent? at h
  split at h
  · simp at h
  · next l levels hl =>
    obtain rfl := Option.some.inj h
    rw [hl]
    exact Nat.le_add_left _ _

theorem ahead_climb_le {depth k : Nat} {c d : Cursor} (h : climb? depth c = some (k, d)) :
    ahead k d ≤ rightSize depth c.levels := by
  induction depth generalizing c with
  | zero => simp [climb?] at h
  | succ depth ih =>
    unfold climb? at h
    split at h
    · next e he =>
      obtain ⟨rfl, rfl⟩ := Prod.mk.inj (Option.some.inj h)
      exact Nat.le_of_eq (rightSize_of_nextSibling depth he)
    · split at h
      · next e he => exact Nat.le_trans (ih h) (rightSize_of_parent depth he)
      · simp at h

theorem ahead_climb_lt {depth k : Nat} {c d : Cursor} (h : climb? depth c = some (k, d)) :
    ahead k d < ahead depth c := by
  have := ahead_climb_le h
  have := Tree.size_eq c.focus
  simp only [ahead] at *
  omega

/-- The nodes of a walk that has gone down `depth` levels to the cursor. -/
def visitFrom (depth : Nat) (c : Cursor) : List Tree :=
  c.focus ::
    match _hd : c.firstChild? with
    | some d => visitFrom (depth + 1) d
    | none =>
      match _hc : climb? depth c with
      | some (k, d) => visitFrom k d
      | none => []
termination_by ahead depth c
decreasing_by
  · exact ahead_firstChild depth _hd
  · exact ahead_climb_lt _hc

/-- The nodes that a walk from the cursor meets. -/
def visit (c : Cursor) : List Tree :=
  visitFrom 0 c

end Cursor

/-- The node and all nodes below it, in the order in which a walk meets them. -/
def Tree.visit (t : Tree) : List Tree :=
  (Cursor.ofTree t).visit

end QualityGate.Python
