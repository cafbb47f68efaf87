/-
The directories above a path.

`ancestors` takes the pieces of a path away from the end, one name after the other.  What the paths name
that it gives are the beginnings of what the path names, the longest first (`map_components_ancestors`).
The path of a location has the paths of the locations above it (`ancestors_pathOf`).

A start and pieces can be read back from the path that they make if no slash is in a piece and the first
piece is not taken for a start (`IsSpelling`); the pieces of every path are like this, and so are all
beginnings of them.
-/
import Mathlib.Data.List.Infix
import QualityGate.Proofs.Path.Relative

namespace QualityGate.Path

variable {p : Path} {lead : Lead} {pieces front rest : List (List Char)}

/-! ### Spellings -/

/-- A start and pieces that can be read back. -/
structure IsSpelling (lead : Lead) (pieces : List (List Char)) : Prop where
  slashFree : ∀ piece ∈ pieces, '/' ∉ piece
  first : lead = .none → ∀ piece, pieces.head? = some piece → isVoid piece = false

theorem IsSpelling.of_prefix (h : IsSpelling lead pieces) (hfront : front <+: pieces) :
    IsSpelling lead front where
  slashFree piece hpiece := h.slashFree piece (hfront.subset hpiece)
  first hlead piece hpiece := by
    obtain ⟨more, rfl⟩ := List.head?_eq_some_iff.1 hpiece
    obtain ⟨others, rfl⟩ := hfront
    exact h.first hlead piece rfl

theorem components_ofPieces (h : IsSpelling lead pieces) :
    (ofPieces lead pieces).components =
      lead.component?.toList ++ pieces.filterMap componentOf? := by
  rw [components_eq]
  by_cases hne : pieces = []
  · subst hne
    cases lead <;> rfl
  · have hsplit := Text.splitOn_joinWith hne h.slashFree
    obtain ⟨next, more, hpieces⟩ := List.exists_cons_of_ne_nil hne
    cases lead with
    | root =>
      rw [Path.pieces, ofPieces, chars_ofChars, Text.splitOn_cons_self, hsplit, hpieces]
      rfl
    | current =>
      have hcut : Text.splitOn '/' ('.' :: '/' :: Text.joinWith ['/'] pieces) = ['.'] :: pieces := by
        rw [← List.singleton_append, Text.splitOn_append_cons, hsplit]
        rfl
      rw [Path.pieces, ofPieces, chars_ofChars, if_neg hne, hcut]
      rfl
    | none =>
      have hnext := h.first rfl next (by rw [hpieces]; rfl)
      rw [Path.pieces, ofPieces, chars_ofChars, hsplit, componentsOf_of_ne]
      · rfl
      all_goals
        -- a void piece in front would be a start
        intros
        rintro rfl
        obtain ⟨rfl, -⟩ := List.cons_eq_cons.1 hpieces
        cases hnext

theorem isSpelling_body (p : Path) : IsSpelling p.lead p.body where
  slashFree piece hpiece := by
    have hmem : piece ∈ Text.splitOn '/' p.chars := by
      rw [body] at hpiece
      split at hpiece
      · split at hpiece
        · cases hpiece
        · exact hpiece
      · exact List.mem_of_mem_tail hpiece
    exact Text.notMem_of_mem_splitOn hmem
  first hlead piece hpiece := by
    rw [body, hlead] at hpiece
    dsimp only at hpiece
    by_cases hchars : p.chars = []
    · rw [if_pos hchars] at hpiece
      cases hpiece
    · rw [if_neg hchars] at hpiece
      obtain ⟨more, hmore⟩ := List.head?_eq_some_iff.1 hpiece
      rw [lead, hmore] at hlead
      -- a void piece in front would have been the start
      rw [← Bool.not_eq_true, isVoid, Bool.or_eq_true, decide_eq_true_eq, decide_eq_true_eq]
      rintro (rfl | rfl)
      · cases more with
        | nil => exact Text.splitOn_ne_singleton_nil hchars hmore
        | cons next more => cases hlead
      · cases hlead

/-! ### The paths above -/

/-- Above a path are the paths of all shorter beginnings, the longest first. -/
theorem map_components_parentsOf (h : IsSpelling lead pieces.reverse) :
    (parentsOf lead pieces).map components =
      ((pieces.filterMap componentOf?).tails.tail.map fun t => lead.component?.toList ++ t.reverse) ++
        if lead = .current then [[]] else [] := by
  induction pieces with
  | nil =>
    rw [parentsOf]
    split <;> rfl
  | cons piece rest ih =>
    have hrest : IsSpelling lead rest.reverse :=
      h.of_prefix (List.reverse_prefix.2 (List.suffix_cons piece rest))
    rw [parentsOf]
    -- a void piece makes no step up
    by_cases hvoid : isVoid piece = true
    · rw [if_pos hvoid, List.filterMap_cons_none (componentOf?_of_isVoid hvoid)]
      exact ih hrest
    · obtain ⟨component, hcomponent⟩ : ∃ component, componentOf? piece = some component := by
        rw [componentOf?, if_neg hvoid]
        split <;> exact ⟨_, rfl⟩
      have hfront : IsSpelling lead (rest.dropWhile isVoid).reverse :=
        hrest.of_prefix (List.reverse_prefix.2 (List.dropWhile_suffix _))
      rw [if_neg hvoid, List.map_cons, ih hrest, components_ofPieces hfront,
        List.filterMap_cons_some hcomponent, List.filterMap_reverse, filterMap_dropWhile]
      cases rest.filterMap componentOf? <;> simp

theorem lead_eq_root_iff : p.lead = .root ↔ p.isAbsolute = true := by
  rw [isAbsolute_iff_pieces]
  constructor
  · intro h
    rw [lead] at h
    split at h
    · next next more hpieces => exact ⟨next :: more, List.cons_ne_nil _ _, hpieces⟩
    · cases h
    · cases h
  · rintro ⟨rest, hne, hpieces⟩
    exact lead_eq_root hne hpieces

/-- A path and the paths above it name the beginnings of what the path names, the longest first; what
starts at the root has the root as its shortest beginning. -/
theorem map_components_ancestors (p : Path) :
    p.ancestors.map components =
      (if p.isAbsolute then p.components.inits.tail else p.components.inits).reverse := by
  have hspelling : IsSpelling p.lead p.body.reverse.reverse := by
    rw [List.reverse_reverse]
    exact isSpelling_body p
  have hfront (front : List Component) :
      (p.body.reverse.filterMap componentOf?).tails.map (fun t => front ++ t.reverse) =
        ((p.body.filterMap componentOf?).inits.map fun t => front ++ t).reverse := by
    rw [List.inits_eq_tails, List.filterMap_reverse, List.map_reverse, List.reverse_reverse,
      List.map_map]
    rfl
  -- the path itself stands before those above it
  have htails (steps : List Component) : steps.tails = steps :: steps.tails.tail := by
    cases steps <;> simp
  have habove : p.ancestors.map components =
      ((p.body.filterMap componentOf?).inits.map fun t => p.lead.component?.toList ++ t).reverse ++
        if p.lead = .current then [[]] else [] := by
    rw [ancestors, List.map_cons, map_components_parentsOf hspelling, ← hfront, htails, List.map_cons,
      List.filterMap_reverse, List.reverse_reverse]
    rfl
  rw [habove, components]
  -- only a path that begins with a dot has an empty path above its first step
  cases hlead : p.lead with
  | root =>
    rw [if_pos (lead_eq_root_iff.1 hlead)]
    simp [Lead.component?]
  | current =>
    have hrelative : p.isAbsolute = false := by simp [← Bool.not_eq_true, ← lead_eq_root_iff, hlead]
    simp [Lead.component?, hrelative]
  | none =>
    have hrelative : p.isAbsolute = false := by simp [← Bool.not_eq_true, ← lead_eq_root_iff, hlead]
    simp [Lead.component?, hrelative]

/-! ### Locations -/

section Location

variable {loc : Location} {name : List Char}

theorem pieces_pathOf (h : ∀ name ∈ loc, IsPlainName name) (hne : loc ≠ []) :
    (Disk.pathOf loc).pieces = [] :: loc.reverse := by
  have hslash : ∀ piece ∈ loc.reverse, '/' ∉ piece :=
    fun piece hpiece => (h piece (List.mem_reverse.1 hpiece)).2
  rw [Disk.pathOf, ofPieces, pieces, chars_ofChars, Text.splitOn_cons_self,
    Text.splitOn_joinWith (List.reverse_eq_nil_iff.not.2 hne) hslash]

theorem parentsOf_root (h : ∀ name ∈ loc, IsPlainName name) :
    parentsOf .root loc = loc.tails.tail.map Disk.pathOf := by
  induction loc with
  | nil => rfl
  | cons name above ih =>
    obtain ⟨hname, habove⟩ := List.forall_mem_cons.1 h
    have hvoid : ∀ next ∈ above, isVoid next = false := fun next hnext => (habove next hnext).1.1
    have hdrop : above.dropWhile isVoid = above := by
      cases above with
      | nil => rfl
      | cons next more => rw [List.dropWhile_cons, hvoid next List.mem_cons_self]; rfl
    rw [parentsOf, hname.1.1, ih habove, hdrop, List.tails_cons, List.tail_cons]
    cases above <;> simp [Disk.pathOf]

/-- Above the path of a location are the paths of the locations above it. -/
theorem ancestors_pathOf (h : ∀ name ∈ loc, IsPlainName name) :
    (Disk.pathOf loc).ancestors = loc.tails.map Disk.pathOf := by
  rw [ancestors]
  by_cases hroot : loc = []
  · subst hroot
    rfl
  · have hne : loc.reverse ≠ [] := List.reverse_eq_nil_iff.not.2 hroot
    have hpieces := pieces_pathOf h hroot
    rw [lead_eq_root hne hpieces, body_eq hne hpieces, List.reverse_reverse, parentsOf_root h]
    cases loc <;> simp

theorem cons_joinWith {pieces : List (List Char)} (hne : pieces ≠ []) :
    '/' :: Text.joinWith ['/'] pieces = pieces.flatMap ('/' :: ·) := by
  induction pieces with
  | nil => exact absurd rfl hne
  | cons piece rest ih =>
    cases rest with
    | nil => simp [Text.joinWith]
    | cons next more =>
      rw [List.flatMap_cons, ← ih (List.cons_ne_nil next more), Text.joinWith, List.append_assoc]
      rfl

theorem chars_pathOf (hne : loc ≠ []) : (Disk.pathOf loc).chars = loc.reverse.flatMap ('/' :: ·) := by
  rw [← cons_joinWith (List.reverse_eq_nil_iff.not.2 hne)]
  exact chars_ofChars _

/-- A name below the path of a location gives the path of the location below. -/
theorem child_pathOf (h : ∀ name ∈ loc, IsPlainName name) (hname : IsPlainName name) :
    (Disk.pathOf loc).child (String.ofList name) = Disk.pathOf (name :: loc) := by
  apply eq_of_chars
  rw [chars_child _ hname, chars_pathOf (List.cons_ne_nil name loc), List.reverse_cons]
  cases loc with
  | nil => simp [Disk.pathOf, ofPieces, Text.joinWith]
  | cons last above =>
    obtain ⟨⟨⟨hvoid, -⟩, hslash⟩, -⟩ := List.forall_mem_cons.1 h
    -- the last name is not empty and holds no slash, so the path does not end in one
    have hlast : last ≠ [] := by
      rintro rfl
      cases hvoid
    obtain ⟨c, hc⟩ : ∃ c, last.getLast? = some c := ⟨_, List.getLast?_eq_some_getLast hlast⟩
    have hne : c ≠ '/' := by
      rintro rfl
      exact hslash (List.mem_of_getLast? hc)
    rw [chars_pathOf (List.cons_ne_nil last above)]
    simp [List.getLast?_cons, hc, hne]

end Location

end QualityGate.Path
