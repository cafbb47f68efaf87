/-
The order of paths.

Components are compared by rank and then by name, paths component by component.  Both comparisons are
those of a linear order, so two paths compare as equal exactly when they name the same steps, and a
sorted list of paths that name pairwise different steps is strictly increasing (`pairwise_lt_sort`), and
which paths they are decides it (`sort_eq_sort`).
-/
import QualityGate.Path

namespace QualityGate.Path

open Std

/-! ### Components -/

instance : TransCmp Component.compare :=
  inferInstanceAs (TransCmp (compareLex (compareOn Component.rank) (compareOn Component.name)))

/-- Rank and name together determine a component. -/
theorem Component.eq_of_rank_of_name {a b : Component} (hrank : a.rank = b.rank)
    (hname : a.name = b.name) : a = b := by
  cases a <;> cases b <;> simp_all [Component.rank, Component.name]

theorem Component.compare_eq_eq_iff {a b : Component} : a.compare b = .eq ↔ a = b := by
  rw [Component.compare, Ordering.then_eq_eq, Std.compare_eq_iff_eq, Std.compare_eq_iff_eq]
  constructor
  · rintro ⟨hrank, hname⟩
    exact eq_of_rank_of_name hrank hname
  · rintro rfl
    exact ⟨rfl, rfl⟩

instance : LawfulEqCmp Component.compare where
  compare_self := Component.compare_eq_eq_iff.2 rfl
  eq_of_compare := Component.compare_eq_eq_iff.1

/-! ### Paths -/

/-- Paths are compared lexicographically. -/
theorem compareComponents_eq_compareLex (as bs : List Component) :
    compareComponents as bs = List.compareLex Component.compare as bs := by
  induction as generalizing bs with
  | nil => cases bs <;> rfl
  | cons a as ih =>
    cases bs with
    | nil => rfl
    | cons b bs =>
      rw [compareComponents, List.compareLex_cons_cons, ih]

theorem compare_eq_compareLex (p q : Path) :
    p.compare q = List.compareLex Component.compare p.components q.components :=
  compareComponents_eq_compareLex p.components q.components

/-- Paths that compare as equal name the same steps. -/
theorem compare_eq_eq_iff {p q : Path} : p.compare q = .eq ↔ p.components = q.components := by
  rw [compare_eq_compareLex]
  exact LawfulEqCmp.compare_eq_iff_eq

theorem isLE_compare_trans {p q r : Path} (hpq : (p.compare q).isLE = true)
    (hqr : (q.compare r).isLE = true) : (p.compare r).isLE = true := by
  rw [compare_eq_compareLex] at hpq hqr ⊢
  exact TransCmp.isLE_trans hpq hqr

theorem isLE_compare_total (p q : Path) : ((p.compare q).isLE || (q.compare p).isLE) = true := by
  have hswap : p.compare q = (q.compare p).swap := by
    rw [compare_eq_compareLex, compare_eq_compareLex]
    exact OrientedCmp.eq_swap
  rw [hswap]
  cases q.compare p <;> rfl

/-! ### Sorting -/

@[simp] theorem mem_sort {p : Path} {paths : List Path} : p ∈ sort paths ↔ p ∈ paths :=
  List.mem_mergeSort

theorem sort_perm (paths : List Path) : (sort paths).Perm paths :=
  List.mergeSort_perm paths _

/-- Paths that name pairwise different steps are strictly increasing once they are sorted. -/
theorem pairwise_lt_sort {paths : List Path}
    (h : paths.Pairwise fun p q => p.components ≠ q.components) :
    (sort paths).Pairwise fun p q => p.compare q = .lt := by
  have hle : (sort paths).Pairwise fun p q => (p.compare q).isLE = true :=
    List.pairwise_mergeSort (fun p q r => isLE_compare_trans (p := p) (q := q) (r := r))
      isLE_compare_total paths
  have hne : (sort paths).Pairwise fun p q => p.components ≠ q.components :=
    h.perm (sort_perm paths).symm fun hpq => Ne.symm hpq
  refine List.Pairwise.imp₂ (fun p q hle hne => ?_) hle hne
  rcases Ordering.isLE_iff_eq_lt_or_eq_eq.1 hle with hlt | heq
  · exact hlt
  · exact absurd (compare_eq_eq_iff.1 heq) hne

theorem not_compare_lt_self (p : Path) : p.compare p ≠ .lt := by
  rw [compare_eq_eq_iff.2 rfl]
  nofun

theorem compare_lt_asymm {p q : Path} (hpq : p.compare q = .lt) : q.compare p ≠ .lt := by
  rw [compare_eq_compareLex] at hpq ⊢
  exact OrientedCmp.not_lt_of_lt hpq

/-- The same paths, which name pairwise different steps, are sorted into the same list. -/
theorem sort_eq_sort {paths paths' : List Path}
    (h : paths.Pairwise fun p q => p.components ≠ q.components)
    (h' : paths'.Pairwise fun p q => p.components ≠ q.components)
    (hmem : ∀ p, p ∈ paths ↔ p ∈ paths') : sort paths = sort paths' := by
  have hlt := pairwise_lt_sort h
  have hlt' := pairwise_lt_sort h'
  have hne {p q : Path} (hpq : p.compare q = .lt) : p ≠ q := by
    rintro rfl
    exact not_compare_lt_self p hpq
  -- in strict order nothing repeats, so having the same members is enough
  have hperm : (sort paths).Perm (sort paths') := by
    rw [List.perm_ext_iff_of_nodup (hlt.imp hne) (hlt'.imp hne)]
    intro p
    rw [mem_sort, mem_sort]
    exact hmem p
  exact hperm.eq_of_pairwise (fun p q _ _ hpq hqp => absurd hqp (compare_lt_asymm hpq)) hlt hlt'

end QualityGate.Path
