/-
The loop of a walk, step by step.

A walk meets the node that it stands on and goes down, or it leaves the node: to the right if it can, and
up otherwise, as long as it is below the node that it started from.  `Walk.step` is one turn of this loop.

From the node that it meets the loop comes back to leaving it, having met exactly the nodes of its subtree,
in `2 * size - 1` steps, whatever stands around the node (`after_over`).  This is one induction over the
tree: from child to child a step leads to the right, and from the last one a step leads up.

The nodes of a subtree are told apart by what stands above them and to their right, so `positions` lists
each of them once (`nodup_positions`, `mem_positions_iff`).  That a walk stays in the subtree is an
invariant of one step (`IsInside.step`).
-/
import Mathlib.Data.List.Nodup
import Mathlib.Logic.Relation
import QualityGate.Proofs.Python.Traversal

namespace QualityGate.Python

namespace Cursor

variable {c d e : Cursor}

/-! ### The nodes of a subtree, by their places -/

/-- The cursors on some siblings, the last ones below a node. -/
def onSiblings (parent : Tree) (levels : List Level) : List Tree → List Cursor
  | [] => []
  | t :: rest => ⟨t, ⟨parent, rest⟩ :: levels⟩ :: onSiblings parent levels rest

/-- The cursors on the children of the node, from left to right. -/
def onChildren (c : Cursor) : List Cursor :=
  onSiblings c.focus c.levels c.focus.children

theorem mem_onSiblings_iff {parent : Tree} {levels : List Level} {siblings : List Tree} :
    e ∈ onSiblings parent levels siblings ↔
      ∃ before rest, siblings = before ++ e.focus :: rest ∧ e.levels = ⟨parent, rest⟩ :: levels := by
  induction siblings with
  | nil => simp [onSiblings]
  | cons t more ih =>
    rw [onSiblings, List.mem_cons, ih]
    constructor
    · rintro (rfl | ⟨before, rest, rfl, hlevels⟩)
      · exact ⟨[], more, rfl, rfl⟩
      · exact ⟨t :: before, rest, rfl, hlevels⟩
    · rintro ⟨before, rest, heq, hlevels⟩
      cases before with
      | nil =>
        obtain ⟨rfl, rfl⟩ := List.cons_eq_cons.1 heq
        left
        obtain ⟨focus, levels'⟩ := e
        obtain rfl : levels' = _ := hlevels
        rfl
      | cons _ before =>
        obtain ⟨rfl, rfl⟩ := List.cons_eq_cons.1 heq
        exact .inr ⟨before, rest, rfl, hlevels⟩

theorem size_focus_lt (h : e ∈ c.onChildren) : e.focus.size < c.focus.size := by
  obtain ⟨before, rest, hchildren, -⟩ := mem_onSiblings_iff.1 h
  have hmem : e.focus ∈ c.focus.children := by
    rw [hchildren]
    exact List.mem_append_right _ List.mem_cons_self
  have hle := Tree.size_le_sizeAll hmem
  rw [Tree.size_eq c.focus]
  omega

/-- The cursors on the node and on all nodes below it, a node before its children and the children from
left to right. -/
def positions (c : Cursor) : List Cursor :=
  c :: c.onChildren.attach.flatMap fun e => positions e.1
termination_by c.focus.size
decreasing_by exact size_focus_lt e.2

theorem positions_eq (c : Cursor) : c.positions = c :: c.onChildren.flatMap positions := by
  rw [positions, List.flatMap_subtype (g := positions) fun _ _ => rfl, List.unattach_attach]

/-- What holds of a cursor if it holds of the cursors on the children holds of every cursor. -/
theorem induction_on_onChildren {motive : Cursor → Prop}
    (step : ∀ c : Cursor, (∀ e ∈ c.onChildren, motive e) → motive c) (c : Cursor) : motive c := by
  induction hsize : c.focus.size using Nat.strongRecOn generalizing c with
  | _ size ih =>
    apply step
    intro e he
    exact ih e.focus.size (hsize ▸ size_focus_lt he) e rfl

theorem map_focus_onSiblings (parent : Tree) (levels : List Level) (siblings : List Tree) :
    (onSiblings parent levels siblings).map focus = siblings := by
  induction siblings with
  | nil => rfl
  | cons t rest ih => rw [onSiblings, List.map_cons, ih]

/-- The nodes at the places of a subtree are those of the tree, in the same order. -/
theorem map_focus_positions (c : Cursor) : c.positions.map focus = c.focus.preorder := by
  induction c using induction_on_onChildren with
  | step c ih =>
    have hchildren : c.onChildren.map focus = c.focus.children := map_focus_onSiblings _ _ _
    rw [positions_eq, List.map_cons, List.map_flatMap, Tree.preorder_eq_cons, ← hchildren,
      List.flatMap_map]
    congr 1
    exact List.flatMap_congr ih

/-! ### Below a node -/

/-- `d` stands on the node of `c` or on one below it. -/
def IsAbove (c d : Cursor) : Prop :=
  Relation.ReflTransGen (fun d e => e ∈ d.onChildren) c d

theorem mem_positions_iff : d ∈ c.positions ↔ c.IsAbove d := by
  constructor
  · intro h
    induction c using induction_on_onChildren with
    | step c ih =>
      rw [positions_eq] at h
      rcases List.mem_cons.1 h with rfl | h
      · exact .refl
      · obtain ⟨e, he, hd⟩ := List.mem_flatMap.1 h
        exact .head he (ih e he hd)
  · intro h
    induction h using Relation.ReflTransGen.head_induction_on with
    | refl =>
      rw [positions_eq]
      exact List.mem_cons_self
    | head he _ ih =>
      rw [positions_eq]
      exact List.mem_cons_of_mem _ (List.mem_flatMap.2 ⟨_, he, ih⟩)

theorem levels_of_mem_onChildren (h : e ∈ c.onChildren) : ∃ l, e.levels = l :: c.levels := by
  obtain ⟨-, rest, -, hlevels⟩ := mem_onSiblings_iff.1 h
  exact ⟨_, hlevels⟩

theorem length_levels (h : e ∈ c.onChildren) : e.levels.length = c.levels.length + 1 := by
  obtain ⟨l, hlevels⟩ := levels_of_mem_onChildren h
  rw [hlevels, List.length_cons]

/-- Below a node the levels above it are still above. -/
theorem IsAbove.suffix (h : c.IsAbove d) : c.levels <:+ d.levels := by
  induction h with
  | refl => exact List.suffix_rfl
  | tail _ he ih =>
    obtain ⟨l, hlevels⟩ := levels_of_mem_onChildren he
    rw [hlevels]
    exact ih.trans (List.suffix_cons _ _)

/-- Siblings have different siblings to their right. -/
theorem pairwise_onSiblings (parent : Tree) (levels : List Level) (siblings : List Tree) :
    (onSiblings parent levels siblings).Pairwise fun d e => d.levels ≠ e.levels := by
  induction siblings with
  | nil => exact .nil
  | cons t more ih =>
    refine List.pairwise_cons.2 ⟨?_, ih⟩
    intro e he heq
    obtain ⟨before, rest, hmore, hlevels⟩ := mem_onSiblings_iff.1 he
    rw [hlevels] at heq
    have hrest : more = rest := congrArg Level.right (List.cons_eq_cons.1 heq).1
    -- siblings have lists of different lengths to their right
    have hlength := congrArg List.length hmore
    rw [hrest, List.length_append, List.length_cons] at hlength
    omega

/-- No two places of a subtree are the same. -/
theorem nodup_positions (c : Cursor) : c.positions.Nodup := by
  induction c using induction_on_onChildren with
  | step c ih =>
    rw [positions_eq, List.nodup_cons, List.nodup_flatMap]
    refine ⟨?_, ih, ?_⟩
    · -- below a child there is one level more
      intro h
      obtain ⟨e, he, hc⟩ := List.mem_flatMap.1 h
      have hle := (mem_positions_iff.1 hc).suffix.length_le
      rw [length_levels he] at hle
      omega
    · -- what is below two children has the levels of both above it
      refine (pairwise_onSiblings _ _ _).imp_of_mem ?_
      intro d e hd he hne x hxd hxe
      have hd' := (mem_positions_iff.1 hxd).suffix
      have he' := (mem_positions_iff.1 hxe).suffix
      have heq : d.levels.length = e.levels.length := by
        rw [length_levels hd, length_levels he]
      exact hne ((List.suffix_of_suffix_length_le hd' he' (Nat.le_of_eq heq)).eq_of_length heq)

/-! ### Moves below a node -/

theorem firstChild_mem (h : c.firstChild? = some d) : d ∈ c.onChildren := by
  unfold firstChild? at h
  split at h
  · cases h
  · next t rest hchildren =>
    obtain rfl := Option.some.inj h
    rw [onChildren, hchildren]
    exact List.mem_cons_self

/-- To the right of a child stands a child of the same node. -/
theorem nextSibling_mem (hd : d ∈ c.onChildren) (h : d.nextSibling? = some e) : e ∈ c.onChildren := by
  obtain ⟨before, rest, hchildren, hlevels⟩ := mem_onSiblings_iff.1 hd
  rw [nextSibling?, hlevels] at h
  split at h
  · next p t more levels heq =>
    obtain ⟨hlevel, rfl⟩ := List.cons_eq_cons.1 heq
    obtain ⟨rfl, rfl⟩ := Level.mk.inj hlevel
    obtain rfl := Option.some.inj h
    refine mem_onSiblings_iff.2 ⟨before ++ [d.focus], more, ?_, rfl⟩
    rw [hchildren, List.append_assoc]
    rfl
  · cases h

/-- Above a child stands the node that it is a child of. -/
theorem parent_of_mem (h : d ∈ c.onChildren) : d.parent? = some c := by
  obtain ⟨-, rest, -, hlevels⟩ := mem_onSiblings_iff.1 h
  rw [parent?, hlevels]

end Cursor

/-! ### The loop -/

/-- What a walk does next with the node that it stands on. -/
inductive Phase where
  | meet
  | leave
  deriving DecidableEq

/-- A walk under way: what it does next, how many levels it has gone down, where it stands, and what it
has met. -/
structure Walk where
  phase : Phase
  depth : Nat
  cursor : Cursor
  met : List Cursor

namespace Walk

variable {c : Cursor} {v w : Walk} {n depth : Nat}

/-- The walk that starts from a node. -/
def start (c : Cursor) : Walk :=
  ⟨.meet, 0, c, []⟩

/-- One turn of the loop; it ends when the node that it started from is left. -/
def step (w : Walk) : Option Walk :=
  match w.phase with
  | .meet =>
    match w.cursor.firstChild? with
    | some d => some ⟨.meet, w.depth + 1, d, w.met ++ [w.cursor]⟩
    | none => some ⟨.leave, w.depth, w.cursor, w.met ++ [w.cursor]⟩
  | .leave =>
    match w.depth with
    | 0 => none
    | depth + 1 =>
      match w.cursor.nextSibling? with
      | some d => some ⟨.meet, depth + 1, d, w.met⟩
      | none => some ⟨.leave, depth, w.cursor.parent?.getD w.cursor, w.met⟩

/-- The walk some turns later, if it has not ended by then. -/
def after : Nat → Walk → Option Walk
  | 0, w => some w
  | n + 1, w => w.step.bind (after n)

theorem after_add (m n : Nat) (w : Walk) : w.after (m + n) = (w.after m).bind (after n) := by
  induction m generalizing w with
  | zero =>
    rw [Nat.zero_add]
    rfl
  | succ m ih =>
    rw [Nat.add_right_comm, after, after, Option.bind_assoc]
    congr 1
    funext v
    exact ih v

/-- Over a node a walk needs two turns for each node below it, and one more. -/
def turns (t : Tree) : Nat :=
  1 + 2 * Tree.sizeAll t.children

/-- From a node a walk comes to leaving it, and has met what is below it. -/
def PassesOver (c : Cursor) : Prop :=
  ∀ depth met, after (turns c.focus) ⟨.meet, depth, c, met⟩ =
    some ⟨.leave, depth, c, met ++ c.positions⟩

/-- Siblings are passed over from left to right, and behind the last one a walk leaves the node above. -/
theorem after_siblings {parent t : Tree} {levels : List Level} {rest : List Tree}
    (h : ∀ e ∈ Cursor.onSiblings parent levels (t :: rest), PassesOver e) (depth : Nat)
    (met : List Cursor) :
    after (2 * Tree.sizeAll (t :: rest)) ⟨.meet, depth + 1, ⟨t, ⟨parent, rest⟩ :: levels⟩, met⟩ =
      some ⟨.leave, depth, ⟨parent, levels⟩,
        met ++ (Cursor.onSiblings parent levels (t :: rest)).flatMap Cursor.positions⟩ := by
  induction rest generalizing t met with
  | nil =>
    have hturns : 2 * Tree.sizeAll [t] = turns t + 1 := by
      simp only [turns, Tree.sizeAll, Tree.size_eq t]
      omega
    rw [hturns, after_add, h _ List.mem_cons_self, Option.bind_some]
    simp only [Cursor.onSiblings, List.flatMap_cons, List.flatMap_nil, List.append_nil]
    rfl
  | cons u more ih =>
    obtain ⟨ht, hmore⟩ := List.forall_mem_cons.1 h
    have hturns : 2 * Tree.sizeAll (t :: u :: more) = turns t + (2 * Tree.sizeAll (u :: more) + 1) := by
      simp only [turns, Tree.sizeAll, Tree.size_eq t]
      omega
    -- from the first sibling one turn leads to the next
    rw [hturns, after_add, ht, Option.bind_some, after]
    show after (2 * Tree.sizeAll (u :: more)) ⟨.meet, depth + 1, ⟨u, ⟨parent, more⟩ :: levels⟩, _⟩ = _
    rw [ih hmore, List.append_assoc]
    rfl

/-- A walk passes over every node, whatever stands around it. -/
theorem passesOver (c : Cursor) : PassesOver c := by
  induction c using Cursor.induction_on_onChildren with
  | step c ih =>
    intro depth met
    rw [Cursor.positions_eq, turns, Nat.add_comm, after]
    -- a leaf is met and left at once
    rcases hchildren : c.focus.children with - | ⟨t, rest⟩
    · have hstep : step ⟨.meet, depth, c, met⟩ = some ⟨.leave, depth, c, met ++ [c]⟩ := by
        simp only [step, Cursor.firstChild?, hchildren]
      rw [hstep, Cursor.onChildren, hchildren]
      rfl
    · have hstep : step ⟨.meet, depth, c, met⟩ =
          some ⟨.meet, depth + 1, ⟨t, ⟨c.focus, rest⟩ :: c.levels⟩, met ++ [c]⟩ := by
        simp only [step, Cursor.firstChild?, hchildren]
      rw [Cursor.onChildren, hchildren] at ih
      rw [hstep, Option.bind_some, after_siblings ih, Cursor.onChildren, hchildren, List.append_assoc]
      rfl

/-- A walk ends behind the node that it started from. -/
theorem after_start (c : Cursor) :
    (start c).after (2 * c.focus.size - 1) = some ⟨.leave, 0, c, c.positions⟩ := by
  have hturns : 2 * c.focus.size - 1 = turns c.focus := by
    rw [turns, Tree.size_eq c.focus]
    omega
  rw [hturns]
  exact passesOver c 0 []

/-! ### A walk stays below its start -/

/-- The walk stands below the node that it started from, as many levels as it has gone down. -/
structure IsInside (c : Cursor) (w : Walk) : Prop where
  above : c.IsAbove w.cursor
  levels : w.cursor.levels.length = w.depth + c.levels.length

theorem isInside_start (c : Cursor) : IsInside c (start c) where
  above := .refl
  levels := (Nat.zero_add _).symm

/-- A walk that has gone down stands on a child of a node below its start. -/
theorem IsInside.exists_parent (h : IsInside c w) (hdepth : w.depth = depth + 1) :
    ∃ d, c.IsAbove d ∧ w.cursor ∈ d.onChildren := by
  rcases Relation.ReflTransGen.cases_tail h.above with heq | ⟨d, habove, hmem⟩
  · have hlevels := h.levels
    rw [heq, hdepth] at hlevels
    omega
  · exact ⟨d, habove, hmem⟩

/-- One turn of the loop keeps a walk below its start. -/
theorem isInside_of_step (h : IsInside c w) (hstep : w.step = some v) : IsInside c v := by
  obtain ⟨phase, depth, here, met⟩ := w
  have hlevels : here.levels.length = depth + c.levels.length := h.levels
  rw [step] at hstep
  cases phase with
  | meet =>
    dsimp only at hstep
    split at hstep
    · -- down to the first child
      next d hd =>
      obtain rfl := Option.some.inj hstep
      have hmem := Cursor.firstChild_mem hd
      refine ⟨h.above.tail hmem, ?_⟩
      dsimp only
      rw [Cursor.length_levels hmem, hlevels]
      omega
    · obtain rfl := Option.some.inj hstep
      exact ⟨h.above, h.levels⟩
  | leave =>
    cases depth with
    | zero => cases hstep
    | succ depth =>
      obtain ⟨d, habove, hmem⟩ := h.exists_parent rfl
      have hlength := Cursor.length_levels hmem
      dsimp only at hstep hmem hlength
      split at hstep
      · -- to the right, to another child of the same node
        next e he =>
        obtain rfl := Option.some.inj hstep
        have hnext := Cursor.nextSibling_mem hmem he
        refine ⟨habove.tail hnext, ?_⟩
        dsimp only
        rw [Cursor.length_levels hnext, ← hlength, hlevels]
      · -- up to that node
        obtain rfl := Option.some.inj hstep
        rw [Cursor.parent_of_mem hmem, Option.getD_some]
        refine ⟨habove, ?_⟩
        dsimp only
        omega

/-- A walk is below its start at all times. -/
theorem isInside_of_after (h : IsInside c w) (hafter : w.after n = some v) : IsInside c v := by
  induction n generalizing w with
  | zero =>
    obtain rfl := Option.some.inj hafter
    exact h
  | succ n ih =>
    obtain ⟨u, hu, hafter⟩ := Option.bind_eq_some_iff.1 hafter
    exact ih (isInside_of_step h hu) hafter

/-- The loop of a walk ends, whatever stands around the node that it starts from: after `2 * size - 1` turns
there is no further one.  By then it has met the node and then the subtrees of its children from left to
right, and these are the nodes that `Cursor.visit` lists; each place in the subtree was met once, and no
other one was.  All the time the walk stands on or below the node that it started from, as many levels
below it as it has counted. -/
theorem walk_meets_subtree_once (c : Cursor) :
    ∃ w, (start c).after (2 * c.focus.size - 1) = some w ∧ w.step = none ∧
      w.met = c :: c.onChildren.flatMap Cursor.positions ∧ w.met.map Cursor.focus = c.visit ∧
      c.visit = c.focus :: c.focus.children.flatMap Tree.preorder ∧
      w.met.Nodup ∧ (∀ d, d ∈ w.met ↔ c.IsAbove d) ∧
      ∀ n v, (start c).after n = some v →
        c.IsAbove v.cursor ∧ v.cursor.levels.length = v.depth + c.levels.length := by
  have hvisit : c.visit = c.focus.preorder := by
    rw [Cursor.visit, Cursor.visitFrom_eq]
    exact List.append_nil _
  refine ⟨_, after_start c, rfl, c.positions_eq, ?_, ?_, c.nodup_positions, ?_, ?_⟩
  · rw [hvisit]
    exact c.map_focus_positions
  · rw [hvisit, Tree.preorder_eq_cons]
  · intro d
    exact Cursor.mem_positions_iff
  · intro n v hv
    have hinside := isInside_of_after (isInside_start c) hv
    exact ⟨hinside.above, hinside.levels⟩

end Walk

end QualityGate.Python
