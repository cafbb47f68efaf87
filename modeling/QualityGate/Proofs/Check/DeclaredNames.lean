/-
Which names a tree declares.

A class or a function declares its name where it stands.  An assignment declares the identifiers that are
met from its left side by going through patterns only (`BindsAt`); whatever stands in an attribute, in a
subscript or in another target is no name.  `NamesAt` says this for each position of a tree.

The walk of the check lists all of these names, each once and in the order of their positions
(`isListing_allNames`).  The names of an assignment are listed at once when the walk meets it, so the order
depends on where they stand: the left side is the first child, and nothing in it declares a name of its
own (`HasPlainTargets`).
-/
import QualityGate.Proofs.Check.SyntaxError
import QualityGate.Proofs.Python.Position

namespace QualityGate

namespace Python.Tree

variable {t c s n left tree : Tree} {p q : List Nat} {i : Nat} {u : NameUse}

/-! ### Targets -/

/-- A target that holds other targets. -/
def isPattern (t : Tree) : Bool :=
  match t.kind with
  | .patternList | .tuplePattern | .listPattern | .listSplatPattern => true
  | _ => false

/-- The identifier at the position is met from the target by going through patterns. -/
inductive BindsAt : Tree → List Nat → Tree → Prop
  | identifier {t : Tree} : t.kind = .identifier → BindsAt t [] t
  | inside {t c n : Tree} {i : Nat} {p : List Nat} :
      t.isPattern = true → t.children[i]? = some c → BindsAt c p n → BindsAt t (i :: p) n

theorem boundNames_eq (t : Tree) :
    t.boundNames =
      if t.kind = .identifier then [t] else if t.isPattern then boundNamesAll t.children else [] := by
  obtain ⟨k, r, p, q, text, cs⟩ := t
  cases k <;> rfl

/-- A bare mark binds nothing. -/
theorem boundNames_of_not_named (h : t.isNamed = false) : t.boundNames = [] := by
  have hkind : t.kind = .asyncKeyword ∨ t.kind = .mark ∨ t.kind = .missing := by
    rw [isNamed] at h
    split at h <;> simp_all
  rw [boundNames_eq, isPattern]
  rcases hkind with hkind | hkind | hkind <;> rw [hkind] <;> rfl

theorem boundNamesAll_eq_flatMap (cs : List Tree) : boundNamesAll cs = cs.flatMap boundNames := by
  induction cs with
  | nil => rfl
  | cons c cs ih =>
    rw [boundNamesAll, List.flatMap_cons, ih]
    split
    · rfl
    · next hnamed => rw [boundNames_of_not_named (Bool.eq_false_iff.2 hnamed)]

theorem not_isPattern_of_identifier (h : t.kind = .identifier) : t.isPattern = false := by
  rw [isPattern, h]

/-- The identifiers that a target binds are listed, each once and from left to right. -/
theorem isListing_boundNames (t : Tree) : IsListing t.BindsAt t.boundNames := by
  induction t using induction_on_children with
  | step t ih =>
    rw [boundNames_eq]
    -- an identifier binds itself, a pattern what its children bind, and nothing else binds
    by_cases hidentifier : t.kind = .identifier
    · rw [if_pos hidentifier]
      apply (IsListing.at_node t).congr
      intro p n
      constructor
      · rintro ⟨rfl, rfl⟩
        exact .identifier hidentifier
      · rintro (- | ⟨hpattern, -, -⟩)
        · exact ⟨rfl, rfl⟩
        · rw [not_isPattern_of_identifier hidentifier] at hpattern
          cases hpattern
    · rw [if_neg hidentifier]
      by_cases hpattern : t.isPattern = true
      · rw [if_pos hpattern, boundNamesAll_eq_flatMap]
        apply (IsListing.below_children ih).congr
        intro p n
        constructor
        · rintro ⟨i, c, q, rfl, hc, hn⟩
          exact .inside hpattern hc hn
        · rintro (hkind | ⟨-, hc, hn⟩)
          · exact absurd hkind hidentifier
          · exact ⟨_, _, _, rfl, hc, hn⟩
      · rw [if_neg hpattern]
        apply IsListing.of_none
        rintro p n (hkind | ⟨hkind, -, -⟩)
        · exact hidentifier hkind
        · exact hpattern hkind

/-! ### Declared names -/

/-- The node declares a name, or names. -/
def isNaming (t : Tree) : Bool :=
  t.isDefinition || t.kind = .assignment

/-- A name that a node declares at a position: its own name for a class or a function, and what its left
side binds for an assignment.  The left side is the child with the number zero. -/
inductive DeclaresAt : Tree → List Nat → NameUse → Prop
  | classDef {t : Tree} : t.kind = .classDefinition → DeclaresAt t [] ⟨.classDef, t.name, t.firstLine⟩
  | function {t : Tree} : t.kind = .functionDefinition →
      DeclaresAt t [] ⟨.function, t.name, t.firstLine⟩
  | target {t left n : Tree} {p : List Nat} :
      t.kind = .assignment → t.child? .left = some left → left.BindsAt p n →
      DeclaresAt t (0 :: p) ⟨.variable, n.text, n.firstLine⟩

/-- A name that is declared at a position, by the node itself or by one below it. -/
inductive NamesAt : Tree → List Nat → NameUse → Prop
  | self {t : Tree} {p : List Nat} {u : NameUse} : t.DeclaresAt p u → NamesAt t p u
  | inside {t c : Tree} {i : Nat} {p : List Nat} {u : NameUse} :
      t.children[i]? = some c → NamesAt c p u → NamesAt t (i :: p) u

/-- The left side of every assignment is its first child, and no class, function or assignment is in
it. -/
structure HasPlainTargets (tree : Tree) : Prop where
  leftFirst : ∀ t ∈ tree.preorder, t.kind = .assignment → t.children.head?.map role = some .left
  plain : ∀ t ∈ tree.preorder, t.kind = .assignment →
    ∀ left ∈ t.children.head?, ∀ s ∈ left.preorder, s.isNaming = false

instance (tree : Tree) : Decidable tree.HasPlainTargets :=
  decidable_of_iff
    ((∀ t ∈ tree.preorder, t.kind = .assignment → t.children.head?.map role = some .left) ∧
      ∀ t ∈ tree.preorder, t.kind = .assignment →
        ∀ left ∈ t.children.head?, ∀ s ∈ left.preorder, s.isNaming = false)
    ⟨fun h => ⟨h.1, h.2⟩, fun h => ⟨h.leftFirst, h.plain⟩⟩

theorem HasPlainTargets.of_mem (h : tree.HasPlainTargets) (ht : t ∈ tree.preorder) :
    t.HasPlainTargets where
  leftFirst s hs := h.leftFirst s (mem_preorder_trans hs ht)
  plain s hs := h.plain s (mem_preorder_trans hs ht)

/-- The first child of an assignment is its left side, in which nothing is named. -/
theorem HasPlainTargets.exists_left (h : t.HasPlainTargets) (hkind : t.kind = .assignment) :
    ∃ left rest, t.children = left :: rest ∧ t.child? .left = some left ∧
      ∀ s ∈ left.preorder, s.isNaming = false := by
  have hfirst := h.leftFirst t (self_mem_preorder t) hkind
  have hplain := h.plain t (self_mem_preorder t) hkind
  rcases hchildren : t.children with - | ⟨left, rest⟩
  · rw [hchildren] at hfirst
    cases hfirst
  · rw [hchildren] at hfirst hplain
    have hrole : left.role = .left := Option.some.inj hfirst
    refine ⟨left, rest, rfl, ?_, hplain left rfl⟩
    rw [child?, hchildren, List.find?_cons_of_pos (by simpa using hrole)]

theorem DeclaresAt.isNaming (h : t.DeclaresAt p u) : t.isNaming = true := by
  cases h with
  | classDef hkind => simp [Tree.isNaming, isDefinition, hkind]
  | function hkind => simp [Tree.isNaming, isDefinition, hkind]
  | target hkind => simp [Tree.isNaming, hkind]

theorem NamesAt.exists_isNaming (h : t.NamesAt p u) : ∃ s ∈ t.preorder, s.isNaming = true := by
  induction h with
  | self hself => exact ⟨_, self_mem_preorder _, hself.isNaming⟩
  | inside hc _ ih =>
    obtain ⟨s, hs, hnaming⟩ := ih
    exact ⟨s, mem_preorder_trans hs (mem_preorder_of_mem_children (List.mem_of_getElem? hc)), hnaming⟩

/-- A name that is declared below a child. -/
def NamesBelow (t : Tree) (p : List Nat) (u : NameUse) : Prop :=
  ∃ i c q, p = i :: q ∧ t.children[i]? = some c ∧ c.NamesAt q u

theorem namesAt_iff : t.NamesAt p u ↔ t.DeclaresAt p u ∨ t.NamesBelow p u := by
  constructor
  · rintro (hself | ⟨hc, hu⟩)
    · exact .inl hself
    · exact .inr ⟨_, _, _, rfl, hc, hu⟩
  · rintro (hself | ⟨i, c, q, rfl, hc, hu⟩)
    · exact .self hself
    · exact .inside hc hu

/-- What a node declares stands before what is declared below its children: nothing is named in the left
side of an assignment, and the other children come behind it. -/
theorem DeclaresAt.lt (h : t.DeclaresAt p u) (hplain : t.HasPlainTargets) {v : NameUse}
    (hbelow : t.NamesBelow q v) : p < q := by
  obtain ⟨i, c, q, rfl, hc, hv⟩ := hbelow
  cases h with
  | classDef => exact List.nil_lt_cons i q
  | function => exact List.nil_lt_cons i q
  | target hkind =>
    obtain ⟨left, rest, hchildren, -, hnone⟩ := hplain.exists_left hkind
    apply List.cons_lt_cons_iff.2 (.inl _)
    rw [hchildren] at hc
    cases i with
    | zero =>
      -- a name below the left side would belong to a class, a function or an assignment in it
      obtain rfl := Option.some.inj hc
      obtain ⟨s, hs, hnaming⟩ := hv.exists_isNaming
      rw [hnone s hs] at hnaming
      cases hnaming
    | succ i => exact Nat.succ_pos i

theorem declaresAt_iff_of_classDefinition (h : t.kind = .classDefinition) :
    t.DeclaresAt p u ↔ p = [] ∧ u = ⟨.classDef, t.name, t.firstLine⟩ := by
  constructor
  · rintro (- | hkind | hkind)
    · exact ⟨rfl, rfl⟩
    all_goals simp [h] at hkind
  · rintro ⟨rfl, rfl⟩
    exact .classDef h

theorem declaresAt_iff_of_functionDefinition (h : t.kind = .functionDefinition) :
    t.DeclaresAt p u ↔ p = [] ∧ u = ⟨.function, t.name, t.firstLine⟩ := by
  constructor
  · rintro (hkind | - | hkind)
    · simp [h] at hkind
    · exact ⟨rfl, rfl⟩
    · simp [h] at hkind
  · rintro ⟨rfl, rfl⟩
    exact .function h

theorem declaresAt_iff_of_assignment (h : t.kind = .assignment) (hleft : t.child? .left = some left) :
    t.DeclaresAt p u ↔
      ∃ q, p = 0 :: q ∧ ∃ n, left.BindsAt q n ∧ u = ⟨.variable, n.text, n.firstLine⟩ := by
  constructor
  · rintro (hkind | hkind | ⟨-, hleft', hn⟩)
    · simp [h] at hkind
    · simp [h] at hkind
    · obtain rfl := Option.some.inj (hleft.symm.trans hleft')
      exact ⟨_, rfl, _, hn, rfl⟩
  · rintro ⟨q, rfl, n, hn, rfl⟩
    exact .target h hleft hn

theorem declaredNames_of_not_isNaming (h : t.isNaming = false) : t.declaredNames = [] := by
  simp only [isNaming, isDefinition, Bool.or_eq_false_iff, decide_eq_false_iff_not] at h
  obtain ⟨⟨hclass, hfunction⟩, hassignment⟩ := h
  rw [declaredNames]
  split
  · next hkind => exact absurd hkind hclass
  · next hkind => exact absurd hkind hfunction
  · next hkind => exact absurd hkind hassignment
  · rfl

/-- What a node declares is listed. -/
theorem isListing_declaredNames (h : t.HasPlainTargets) : IsListing t.DeclaresAt t.declaredNames := by
  by_cases hclass : t.kind = .classDefinition
  · rw [declaredNames, hclass]
    exact (IsListing.at_node _).congr fun p u => (declaresAt_iff_of_classDefinition hclass).symm
  by_cases hfunction : t.kind = .functionDefinition
  · rw [declaredNames, hfunction]
    exact (IsListing.at_node _).congr fun p u => (declaresAt_iff_of_functionDefinition hfunction).symm
  by_cases hassignment : t.kind = .assignment
  · obtain ⟨left, rest, -, hleft, -⟩ := h.exists_left hassignment
    simp only [declaredNames, hassignment, hleft]
    apply (((isListing_boundNames left).map _).below_child 0).congr
    exact fun p u => (declaresAt_iff_of_assignment hassignment hleft).symm
  · have hnaming : t.isNaming = false := by
      simp [isNaming, isDefinition, hclass, hfunction, hassignment]
    rw [declaredNames_of_not_isNaming hnaming]
    apply IsListing.of_none
    intro p u hdeclares
    rw [hdeclares.isNaming] at hnaming
    cases hnaming

theorem allNames_eq (t : Tree) : t.allNames = t.declaredNames ++ t.children.flatMap allNames := by
  have hnames (s : Tree) : s.allNames = s.preorder.flatMap declaredNames := by
    rw [allNames, visit_eq_preorder]
  rw [hnames, preorder_eq_cons, List.flatMap_cons, List.flatMap_assoc]
  exact congrArg _ (List.flatMap_congr fun c _ => (hnames c).symm)

/-- All names of a tree are listed, each once and in the order of their positions. -/
theorem isListing_allNames (h : tree.HasPlainTargets) : IsListing tree.NamesAt tree.allNames := by
  induction tree using induction_on_children with
  | step t ih =>
    have hbelow : IsListing t.NamesBelow (t.children.flatMap allNames) :=
      IsListing.below_children fun c hc => ih c hc (h.of_mem (mem_preorder_of_mem_children hc))
    -- what the node declares is listed before the walk goes down
    rw [allNames_eq]
    apply ((isListing_declaredNames h).append hbelow fun p u hu q v hv => hu.lt h hv).congr
    exact fun p u => namesAt_iff.symm

/-! ### Lines -/

theorem BindsAt.at?_eq (h : t.BindsAt p n) : t.at? p = some n := by
  induction h with
  | identifier => rfl
  | inside _ hc _ ih => exact at?_cons_eq_some_iff.2 ⟨_, hc, ih⟩

theorem DeclaresAt.exists_at? (h : t.DeclaresAt p u) (hplain : t.HasPlainTargets) :
    ∃ s, t.at? p = some s ∧ u.line = s.firstLine := by
  cases h with
  | classDef => exact ⟨t, rfl, rfl⟩
  | function => exact ⟨t, rfl, rfl⟩
  | @target left n q hkind hleft hn =>
    obtain ⟨first, rest, hchildren, hfirst, -⟩ := hplain.exists_left hkind
    obtain rfl := Option.some.inj (hleft.symm.trans hfirst)
    refine ⟨n, at?_cons_eq_some_iff.2 ⟨left, ?_, hn.at?_eq⟩, rfl⟩
    rw [hchildren]
    rfl

/-- A name has the line on which the node at its position starts. -/
theorem NamesAt.exists_at? (h : t.NamesAt p u) (hplain : t.HasPlainTargets) :
    ∃ s, t.at? p = some s ∧ u.line = s.firstLine := by
  induction h with
  | self hself => exact hself.exists_at? hplain
  | inside hc _ ih =>
    obtain ⟨s, hs, hline⟩ := ih (hplain.of_mem (mem_preorder_of_mem_children (List.mem_of_getElem? hc)))
    exact ⟨s, at?_cons_eq_some_iff.2 ⟨_, hc, hs⟩, hline⟩

/-- In an ordered tree the lines of the names never decrease. -/
theorem pairwise_line_allNames (h : tree.IsOrdered) (hplain : tree.HasPlainTargets) :
    (tree.allNames.map NameUse.line).Pairwise (· ≤ ·) := by
  obtain ⟨found, hfound, hsorted, hmem⟩ := isListing_allNames hplain
  rw [← hfound, List.pairwise_map, List.pairwise_map]
  apply hsorted.imp_of_mem
  rintro ⟨p, u⟩ ⟨q, v⟩ hu hv hlt
  obtain ⟨s, hs, hline⟩ := ((hmem p u).1 hu).exists_at? hplain
  obtain ⟨s', hs', hline'⟩ := ((hmem q v).1 hv).exists_at? hplain
  -- places in order are rows in order
  have hrow : s.first.row ≤ s'.first.row := Point.row_le_of_le (h.first_le_first hs hs' hlt)
  calc u.line = s.firstLine := hline
    _ ≤ s'.firstLine := Nat.succ_le_succ hrow
    _ = v.line := hline'.symm

end Python.Tree

namespace Check

open Python (IsListing Tree)
open Python.Tree (NameUse)

/-- The findings about names have the lines of some of these names, in their order. -/
theorem exists_lines_filterMap_misnamed? (shown : Path) (uses : List NameUse) :
    ∃ lines : List Nat, lines.Sublist (uses.map NameUse.line) ∧
      (uses.filterMap fun n => misnamed? shown (some n.line) n.role n.name).map Finding.line =
        lines.map some := by
  induction uses with
  | nil => exact ⟨[], List.Sublist.refl _, rfl⟩
  | cons n rest ih =>
    obtain ⟨lines, hsub, hlines⟩ := ih
    -- a name that breaks no convention leaves a gap in the lines
    rcases hviolation : Naming.violation? n.role n.name with - | message
    · have hnone : misnamed? shown (some n.line) n.role n.name = none := by
        rw [misnamed?, hviolation]
        rfl
      refine ⟨lines, hsub.cons _, ?_⟩
      simp only [List.filterMap_cons, hnone, hlines]
    · have hsome : misnamed? shown (some n.line) n.role n.name =
          some ⟨shown, some n.line, elementOf? n.role n.name, message⟩ := by
        rw [misnamed?, hviolation]
        rfl
      refine ⟨n.line :: lines, hsub.cons_cons _, ?_⟩
      simp only [List.filterMap_cons, hsome, List.map_cons, hlines]

/-- In an ordered tree whose targets are plain the walk lists all names that are declared, each once and in
the order of their positions, and their lines never decrease.  For a valid file with that tree the check of
names reports the name of the module, if it breaks its convention, and then the names of the list that
break theirs, each with its line and so in the order of the text. -/
theorem names_listed_in_source_order (tree : Tree) (h : tree.IsOrdered) (hplain : tree.HasPlainTargets) :
    IsListing tree.NamesAt tree.allNames ∧
    (tree.allNames.map NameUse.line).Pairwise (· ≤ ·) ∧
    ∀ ctx path text, ctx.disk.readText path = .ok text → Tree.ofText text = tree → tree.isValid = true →
      let shown := ctx.shown path
      let module := (misnamed? shown none .module (String.ofList (path.stem?.getD []))).toList
      let inTree := tree.allNames.filterMap fun n => misnamed? shown (some n.line) n.role n.name
      misnamed ctx path = module ++ inTree ∧
        ∃ lines : List Nat, inTree.map Finding.line = lines.map some ∧ lines.Pairwise (· ≤ ·) := by
  have hlines := Tree.pairwise_line_allNames h hplain
  refine ⟨Tree.isListing_allNames hplain, hlines, ?_⟩
  rintro ctx path text hread rfl hvalid shown module inTree
  obtain ⟨lines, hsub, heq⟩ := exists_lines_filterMap_misnamed? shown (Tree.ofText text).allNames
  refine ⟨?_, lines, heq, hlines.sublist hsub⟩
  simp only [misnamed, hread, misnamedInText, if_pos hvalid, module, inTree, shown]

/-- A target over two lines holds a list, an attribute and a subscript, and the right side assigns on. -/
theorem names_listed_of_nested_targets :
    let text := "class a:\n def f():\n  (b, [Cc,\n   *d]), e.g, h[0] = i = J = 1\n".toList
    let path : Path := ⟨"/p/m.py"⟩
    let d := Disk.empty.putDeep ["m.py".toList, "p".toList] (.file (Text.encode text))
    let ctx : Context := ⟨⟨"/p"⟩, [⟨""⟩], .standard, d⟩
    let tree := Tree.ofText text
    (tree.IsOrdered ∧ tree.HasPlainTargets ∧ ctx.disk.readText path = .ok text ∧ tree.isValid = true) ∧
      IsListing tree.NamesAt tree.allNames ∧
      (tree.allNames.map fun n => (n.name, n.line)) =
        [("a", 1), ("f", 2), ("b", 3), ("Cc", 3), ("d", 4), ("i", 4), ("J", 4)] ∧
      (misnamed ctx path).map Finding.display =
        ["m.py:1 - Class name 'a' does not follow PascalCase convention",
          "m.py:3 - Variable 'Cc' does not follow snake_case convention"] := by
  intro text path d ctx tree
  have hsome : (ctx.disk.readText path).toOption = some text := by decide +kernel
  have hfacts : tree.IsOrdered ∧ tree.HasPlainTargets ∧ tree.isValid = true ∧
      (tree.allNames.map fun n => (n.name, n.line)) =
        [("a", 1), ("f", 2), ("b", 3), ("Cc", 3), ("d", 4), ("i", 4), ("J", 4)] ∧
      ((misnamed? (ctx.shown path) none .module (String.ofList (path.stem?.getD []))).toList ++
        tree.allNames.filterMap fun n =>
          misnamed? (ctx.shown path) (some n.line) n.role n.name).map Finding.display =
        ["m.py:1 - Class name 'a' does not follow PascalCase convention",
          "m.py:3 - Variable 'Cc' does not follow snake_case convention"] := by decide +kernel
  obtain ⟨h, hplain, hvalid, hnames, hshown⟩ := hfacts
  have hread : ctx.disk.readText path = .ok text := eq_ok_of_toOption hsome
  obtain ⟨hlisting, -, hfile⟩ := names_listed_in_source_order tree h hplain
  obtain ⟨hmisnamed, -⟩ := hfile ctx path text hread rfl hvalid
  exact ⟨⟨h, hplain, hread, hvalid⟩, hlisting, hnames, hmisnamed ▸ hshown⟩

end Check

end QualityGate
