/-
Positions in a tree.

The position of a node is the list of the numbers that lead to it, each the number of a child.  Positions
are compared as words are in a dictionary: a node comes before what is below it, and what is below one
child before what is below the next.  In an ordered tree a node at a later position starts no earlier
(`IsOrdered.first_le_first`).

A listing of what stands at positions gives all of it, each once and in the order of the positions
(`IsListing`).  Listings of the children are joined to one of what is below a node
(`IsListing.below_children`).
-/
import Mathlib.Data.List.Basic
import QualityGate.Proofs.Python.Order

namespace QualityGate.Python

namespace Tree

/-- The node at a position. -/
def at? (t : Tree) : List Nat → Option Tree
  | [] => some t
  | i :: p => t.children[i]?.bind fun c => c.at? p

variable {t s a b : Tree} {p q : List Nat}

theorem at?_cons_eq_some_iff {i : Nat} :
    t.at? (i :: p) = some s ↔ ∃ c, t.children[i]? = some c ∧ c.at? p = some s := by
  rw [at?, Option.bind_eq_some_iff]

theorem mem_preorder_of_at? (h : t.at? p = some s) : s ∈ t.preorder := by
  induction p generalizing t with
  | nil =>
    obtain rfl := Option.some.inj h
    exact self_mem_preorder t
  | cons i p ih =>
    obtain ⟨c, hc, hs⟩ := at?_cons_eq_some_iff.1 h
    exact mem_preorder_trans (ih hs) (mem_preorder_of_mem_children (List.mem_of_getElem? hc))

/-- A node at a later position starts no earlier. -/
theorem IsOrdered.first_le_first (h : t.IsOrdered) (ha : t.at? p = some a) (hb : t.at? q = some b)
    (hlt : p < q) : a.first ≤ b.first := by
  induction p generalizing t q with
  | nil =>
    obtain rfl := Option.some.inj ha
    exact (h.within (mem_preorder_of_at? hb)).1
  | cons i p ih =>
    cases q with
    | nil => cases hlt -- nothing comes before the node itself
    | cons j q =>
      obtain ⟨c, hc, ha⟩ := at?_cons_eq_some_iff.1 ha
      obtain ⟨d, hd, hb⟩ := at?_cons_eq_some_iff.1 hb
      have hc' := mem_preorder_of_mem_children (List.mem_of_getElem? hc)
      have hd' := mem_preorder_of_mem_children (List.mem_of_getElem? hd)
      rcases List.cons_lt_cons_iff.1 hlt with hij | ⟨rfl, hpq⟩
      · -- the one lies in an earlier child, which ends before the later one starts
        have hcd : c.last ≤ d.first := by
          obtain ⟨hi, rfl⟩ := List.getElem?_eq_some_iff.1 hc
          obtain ⟨hj, rfl⟩ := List.getElem?_eq_some_iff.1 hd
          exact List.pairwise_iff_getElem.1 (h.ordered t (self_mem_preorder t)) i j hi hj hij
        have ha' := (h.of_mem hc').within (mem_preorder_of_at? ha)
        have hb' := (h.of_mem hd').within (mem_preorder_of_at? hb)
        have hforward := h.forward a (mem_preorder_trans (mem_preorder_of_at? ha) hc')
        exact Point.le_trans hforward (Point.le_trans ha'.2 (Point.le_trans hcd hb'.1))
      · obtain rfl := Option.some.inj (hc.symm.trans hd)
        exact ih (h.of_mem hc') ha hb hpq

end Tree

/-! ### Listings -/

/-- The list gives what stands at positions: everything, each once, in the order of the positions. -/
def IsListing {α : Type} (Stands : List Nat → α → Prop) (xs : List α) : Prop :=
  ∃ found : List (List Nat × α), found.map Prod.snd = xs ∧ (found.Pairwise fun a b => a.1 < b.1) ∧
    ∀ p x, (p, x) ∈ found ↔ Stands p x

namespace IsListing

variable {α β : Type} {Stands Stands' : List Nat → α → Prop} {xs ys : List α}

theorem congr (h : IsListing Stands xs) (hiff : ∀ p x, Stands p x ↔ Stands' p x) :
    IsListing Stands' xs := by
  obtain ⟨found, hfound, hsorted, hmem⟩ := h
  exact ⟨found, hfound, hsorted, fun p x => (hmem p x).trans (hiff p x)⟩

theorem of_none (h : ∀ p x, ¬ Stands p x) : IsListing Stands [] :=
  ⟨[], rfl, List.Pairwise.nil, fun p x => iff_of_false List.not_mem_nil (h p x)⟩

/-- What stands at the node itself. -/
theorem at_node (x : α) : IsListing (fun p y => p = [] ∧ y = x) [x] :=
  ⟨[([], x)], rfl, List.pairwise_singleton _ _, fun p y => by
    rw [List.mem_singleton, Prod.mk.injEq]⟩

theorem map (f : α → β) (h : IsListing Stands xs) :
    IsListing (fun p y => ∃ x, Stands p x ∧ y = f x) (xs.map f) := by
  obtain ⟨found, rfl, hsorted, hmem⟩ := h
  refine ⟨found.map fun r => (r.1, f r.2), ?_, ?_, ?_⟩
  · rw [List.map_map, List.map_map]
    rfl
  · rwa [List.pairwise_map]
  · intro p y
    rw [List.mem_map]
    constructor
    · rintro ⟨⟨p, x⟩, hx, heq⟩
      obtain ⟨rfl, rfl⟩ := Prod.mk.inj heq
      exact ⟨x, (hmem p x).1 hx, rfl⟩
    · rintro ⟨x, hx, rfl⟩
      exact ⟨(p, x), (hmem p x).2 hx, rfl⟩

/-- One listing behind another. -/
theorem append (h : IsListing Stands xs) (h' : IsListing Stands' ys)
    (hlt : ∀ p x, Stands p x → ∀ q y, Stands' q y → p < q) :
    IsListing (fun p x => Stands p x ∨ Stands' p x) (xs ++ ys) := by
  obtain ⟨found, rfl, hsorted, hmem⟩ := h
  obtain ⟨found', rfl, hsorted', hmem'⟩ := h'
  refine ⟨found ++ found', List.map_append, ?_, ?_⟩
  · rw [List.pairwise_append]
    refine ⟨hsorted, hsorted', ?_⟩
    rintro ⟨p, x⟩ hx ⟨q, y⟩ hy
    exact hlt p x ((hmem p x).1 hx) q y ((hmem' q y).1 hy)
  · intro p x
    rw [List.mem_append, hmem, hmem']

/-- What stands below one child, seen from the node. -/
theorem below_child (i : Nat) (h : IsListing Stands xs) :
    IsListing (fun p x => ∃ q, p = i :: q ∧ Stands q x) xs := by
  obtain ⟨found, rfl, hsorted, hmem⟩ := h
  refine ⟨found.map fun r => (i :: r.1, r.2), ?_, ?_, ?_⟩
  · rw [List.map_map]
    rfl
  · rw [List.pairwise_map]
    exact hsorted.imp fun hlt => List.cons_lt_cons_iff.2 (.inr ⟨rfl, hlt⟩)
  · intro p x
    rw [List.mem_map]
    constructor
    · rintro ⟨⟨q, x⟩, hx, heq⟩
      obtain ⟨rfl, rfl⟩ := Prod.mk.inj heq
      exact ⟨q, rfl, (hmem q x).1 hx⟩
    · rintro ⟨q, rfl, hx⟩
      exact ⟨(q, x), (hmem q x).2 hx, rfl⟩

/-- Listings of nodes side by side, the first of them the child with the number `i`. -/
theorem below_children_from {StandsIn : Tree → List Nat → α → Prop} {list : Tree → List α} (i : Nat)
    (cs : List Tree) (h : ∀ c ∈ cs, IsListing (StandsIn c) (list c)) :
    IsListing (fun p x => ∃ j c q, p = (i + j) :: q ∧ cs[j]? = some c ∧ StandsIn c q x)
      (cs.flatMap list) := by
  induction cs generalizing i with
  | nil =>
    apply of_none
    rintro p x ⟨j, c, q, -, hc, -⟩
    cases hc
  | cons c cs ih =>
    -- the rest starts at the next number, so all of it stands behind what is below `c`
    obtain ⟨hc, hcs⟩ := List.forall_mem_cons.1 h
    rw [List.flatMap_cons]
    apply ((hc.below_child i).append (ih (i + 1) hcs) ?_).congr
    · intro p x
      constructor
      · rintro (⟨q, rfl, hx⟩ | ⟨j, d, q, rfl, hd, hx⟩)
        · exact ⟨0, c, q, rfl, rfl, hx⟩
        · exact ⟨j + 1, d, q, by rw [Nat.add_assoc, Nat.add_comm 1 j], hd, hx⟩
      · rintro ⟨j, d, q, rfl, hd, hx⟩
        cases j with
        | zero =>
          obtain rfl := Option.some.inj hd
          exact .inl ⟨q, rfl, hx⟩
        | succ j => exact .inr ⟨j, d, q, by rw [Nat.add_assoc, Nat.add_comm 1 j], hd, hx⟩
    · rintro p x ⟨q, rfl, -⟩ p' y ⟨j, d, q', rfl, -, -⟩
      exact List.cons_lt_cons_iff.2 (.inl (by omega))

/-- Listings of the children of a node. -/
theorem below_children {StandsIn : Tree → List Nat → α → Prop} {list : Tree → List α} {t : Tree}
    (h : ∀ c ∈ t.children, IsListing (StandsIn c) (list c)) :
    IsListing (fun p x => ∃ i c q, p = i :: q ∧ t.children[i]? = some c ∧ StandsIn c q x)
      (t.children.flatMap list) := by
  apply (below_children_from 0 t.children h).congr
  intro p x
  simp only [Nat.zero_add]

end IsListing

end QualityGate.Python
