/-
What remains of a path below another, and plain spelling.

`relativeTo?` takes the components of a base away from the front of a path, and `join` puts them back:
the joined path names the same steps as the one that was cut (`components_join_relativeTo?`).  It need
not be spelled the same, since void pieces are lost.  `plain` spells a path without any void piece, so
that paths which name the same steps have one plain spelling.
-/
import QualityGate.Proofs.Path.Below

namespace QualityGate.Path

variable {p base other : Path}

/-! ### Absolute paths -/

theorem chars_ne_nil_of_isAbsolute (h : p.isAbsolute = true) : p.chars ≠ [] := by
  intro hempty
  rw [isAbsolute, hempty] at h
  cases h

theorem isAbsolute_below {root : Path} {names : List (List Char)} (hroot : root.isAbsolute = true)
    (h : ∀ name ∈ names, isEntryName name = true) : (root.below names).isAbsolute = true := by
  induction names generalizing root with
  | nil => exact hroot
  | cons name rest ih =>
    obtain ⟨hname, hrest⟩ := List.forall_mem_cons.1 h
    apply ih _ hrest
    rw [isAbsolute_child (chars_ne_nil_of_isAbsolute hroot) (isPlainName_of_isEntryName hname)]
    exact hroot

theorem isAbsolute_join_of_isAbsolute {base : Path} (h : base.isAbsolute = true) (other : Path) :
    (base.join other).isAbsolute = true := by
  rcases hother : other.isAbsolute with - | -
  · rw [isAbsolute_join (chars_ne_nil_of_isAbsolute h) hother]
    exact h
  · rw [join, if_pos hother]
    exact hother

/-- An absolute path has an empty piece before its first slash. -/
theorem isAbsolute_iff_pieces : p.isAbsolute = true ↔ ∃ rest, rest ≠ [] ∧ p.pieces = [] :: rest := by
  rw [isAbsolute, decide_eq_true_eq]
  constructor
  · intro h
    obtain ⟨rest, hchars⟩ := List.head?_eq_some_iff.1 h
    refine ⟨Text.splitOn '/' rest, Text.splitOn_ne_nil _ _, ?_⟩
    rw [pieces, hchars, Text.splitOn_cons_self]
  · rintro ⟨rest, hne, hpieces⟩
    rw [pieces] at hpieces
    rcases hchars : p.chars with - | ⟨c, s⟩
    · rw [hchars, Text.splitOn_nil] at hpieces
      exact absurd (List.cons_eq_cons.1 hpieces).2.symm hne
    -- a first character other than the slash would stand in the first piece
    · by_cases hc : c = '/'
      · rw [hc]
        rfl
      · rw [hchars, Text.splitOn_cons_of_ne hc] at hpieces
        exact absurd (List.cons_eq_cons.1 hpieces).1 (List.cons_ne_nil _ _)

theorem lead_eq_root {rest : List (List Char)} (hne : rest ≠ []) (h : p.pieces = [] :: rest) :
    p.lead = .root := by
  obtain ⟨next, more, rfl⟩ := List.exists_cons_of_ne_nil hne
  rw [pieces] at h
  rw [lead, h]

theorem body_eq {rest : List (List Char)} (hne : rest ≠ []) (h : p.pieces = [] :: rest) :
    p.body = rest := by
  have hlead := lead_eq_root hne h
  rw [pieces] at h
  rw [body, hlead, h]
  rfl

theorem components_of_pieces {rest : List (List Char)} (hne : rest ≠ []) (h : p.pieces = [] :: rest) :
    p.components = .root :: rest.filterMap componentOf? := by
  rw [components, lead_eq_root hne h, body_eq hne h]
  rfl

/-- A path taken from an absolute base names the steps of the base and then its own. -/
theorem components_join (hbase : base.isAbsolute = true) (h : other.isAbsolute = false) :
    (base.join other).components = base.components ++ other.pieces.filterMap componentOf? := by
  have hchars := chars_ne_nil_of_isAbsolute hbase
  obtain ⟨front, hjoin, hfront⟩ := exists_pieces_join base h
  have hother : other.pieces ≠ [] := Text.splitOn_ne_nil _ _
  -- an absolute base has pieces before and behind its first slash
  have hne : front ≠ [] := by
    rintro rfl
    rcases hfront with hpieces | ⟨hpieces, -⟩
    · exact Text.splitOn_ne_singleton_nil hchars hpieces
    · exact Text.splitOn_ne_nil _ _ hpieces
  rw [components_eq, components_eq, hjoin]
  by_cases hroot : front = [[]]
  · -- the base is the root
    subst hroot
    obtain ⟨first, rest, hpieces⟩ := List.exists_cons_of_ne_nil hother
    rcases hfront with hbase | ⟨-, hne⟩
    · rw [hbase, hpieces]
      rfl
    · exact absurd rfl hne
  · rw [componentsOf_append hne hroot]
    rcases hfront with hbase | ⟨hbase, -⟩
    · rw [hbase, componentsOf_append hne hroot]
      simp [componentOf?, isVoid]
    · rw [hbase]

/-! ### Void pieces -/

theorem componentOf?_of_isVoid {piece : List Char} (h : isVoid piece = true) :
    componentOf? piece = none := by
  rw [componentOf?, if_pos h]

theorem filterMap_dropWhile (pieces : List (List Char)) :
    (pieces.dropWhile isVoid).filterMap componentOf? = pieces.filterMap componentOf? := by
  induction pieces with
  | nil => rfl
  | cons piece rest ih =>
    by_cases hvoid : isVoid piece = true
    · rw [List.dropWhile_cons_of_pos hvoid, ih,
        List.filterMap_cons_none (componentOf?_of_isVoid hvoid)]
    · rw [List.dropWhile_cons_of_neg hvoid]

theorem filterMap_trimPieces (pieces : List (List Char)) :
    (trimPieces pieces).filterMap componentOf? = pieces.filterMap componentOf? := by
  rw [trimPieces, List.filterMap_reverse, filterMap_dropWhile, List.filterMap_reverse,
    List.reverse_reverse]

theorem trimPieces_isPrefix (pieces : List (List Char)) : trimPieces pieces <+: pieces := by
  rw [trimPieces, ← List.reverse_suffix, List.reverse_reverse]
  exact List.dropWhile_suffix _

/-! ### What remains below a base -/

theorem filterMap_of_dropPieces {cs : List Component} {pieces rest : List (List Char)}
    (h : dropPieces cs pieces = some rest) :
    pieces.filterMap componentOf? = cs ++ rest.filterMap componentOf? ∧ rest <:+ pieces := by
  induction pieces generalizing cs with
  | nil =>
    cases cs with
    | nil =>
      obtain rfl := Option.some.inj h
      exact ⟨rfl, List.suffix_rfl⟩
    | cons c cs => cases h
  | cons piece more ih =>
    cases cs with
    | nil =>
      obtain rfl := Option.some.inj h
      exact ⟨rfl, List.suffix_rfl⟩
    | cons c cs =>
      rw [dropPieces] at h
      -- a void piece is passed over, any other one has to be the component that is next
      rcases hpiece : componentOf? piece with - | component
      · rw [hpiece] at h
        obtain ⟨hmore, hsuffix⟩ := ih h
        rw [List.filterMap_cons_none hpiece]
        exact ⟨hmore, hsuffix.trans (List.suffix_cons _ _)⟩
      · simp only [hpiece] at h
        by_cases hc : c = component
        · rw [if_pos hc] at h
          obtain ⟨hmore, hsuffix⟩ := ih h
          rw [List.filterMap_cons_some hpiece, hmore, hc]
          exact ⟨rfl, hsuffix.trans (List.suffix_cons _ _)⟩
        · rw [if_neg hc] at h
          cases h

/-- Pieces without slashes of which the first is not void are those of a path that is not absolute. -/
theorem pieces_ofPieces {pieces : List (List Char)} (hslash : ∀ piece ∈ pieces, '/' ∉ piece)
    (hfirst : ∀ piece, pieces.head? = some piece → isVoid piece = false) :
    (ofPieces .none pieces).isAbsolute = false ∧
      (ofPieces .none pieces).pieces.filterMap componentOf? = pieces.filterMap componentOf? := by
  by_cases hne : pieces = []
  · rw [hne]
    exact ⟨rfl, rfl⟩
  · have hpieces : (ofPieces .none pieces).pieces = pieces := by
      rw [Path.pieces, ofPieces, chars_ofChars]
      exact Text.splitOn_joinWith hne hslash
    refine ⟨?_, by rw [hpieces]⟩
    rw [← Bool.not_eq_true, isAbsolute_iff_pieces, hpieces]
    rintro ⟨rest, -, rfl⟩
    exact absurd (hfirst [] rfl) (by decide)

/-- What remains of a path below a base starts at no root, and its pieces name the steps of the path
behind those of the base. -/
theorem steps_of_relativeTo? {rest : Path} (hbase : base.isAbsolute = true)
    (hp : p.isAbsolute = true) (h : p.relativeTo? base = some rest) :
    rest.isAbsolute = false ∧
      p.components = base.components ++ rest.pieces.filterMap componentOf? := by
  obtain ⟨bs, hbs, hbase'⟩ := isAbsolute_iff_pieces.1 hbase
  obtain ⟨ps, hps, hp'⟩ := isAbsolute_iff_pieces.1 hp
  -- both start at the root, so the pieces behind it decide
  simp only [relativeTo?, components_of_pieces hbs hbase', lead_eq_root hps hp', Lead.component?,
    if_true, body_eq hps hp', Option.map_eq_some_iff] at h
  obtain ⟨left, hleft, rfl⟩ := h
  obtain ⟨hsteps, hsuffix⟩ := filterMap_of_dropPieces hleft
  have htrim := trimPieces_isPrefix (left.dropWhile isVoid)
  have hslash : ∀ piece ∈ trimPieces (left.dropWhile isVoid), '/' ∉ piece := by
    intro piece hpiece
    have hmem : piece ∈ p.pieces := by
      rw [hp']
      apply List.mem_cons_of_mem
      exact hsuffix.subset ((List.dropWhile_suffix _).subset (htrim.subset hpiece))
    exact Text.notMem_of_mem_splitOn hmem
  -- the void pieces in front are dropped, so what is left does not start at the root again
  have hfirst : ∀ piece, (trimPieces (left.dropWhile isVoid)).head? = some piece →
      isVoid piece = false := by
    intro piece hpiece
    have hhead := List.head?_dropWhile_not isVoid left
    obtain ⟨more, hmore⟩ := htrim
    obtain ⟨others, hothers⟩ := List.head?_eq_some_iff.1 hpiece
    rw [← hmore, hothers] at hhead
    simpa using hhead
  obtain ⟨hrelative, hpieces⟩ := pieces_ofPieces hslash hfirst
  refine ⟨hrelative, ?_⟩
  rw [hpieces, filterMap_trimPieces, filterMap_dropWhile, components_of_pieces hbs hbase',
    components_of_pieces hps hp', hsteps]
  rfl

/-- Joining a base with what remains of a path below it names the same steps as the path. -/
theorem components_join_relativeTo? {rest : Path} (hbase : base.isAbsolute = true)
    (hp : p.isAbsolute = true) (h : p.relativeTo? base = some rest) :
    (base.join rest).components = p.components := by
  obtain ⟨hrelative, hsteps⟩ := steps_of_relativeTo? hbase hp h
  rw [components_join hbase hrelative, hsteps]

/-! ### Plain spelling -/

/-- The piece that a component is written as. -/
def Component.piece : Component → List Char
  | .root => []
  | .current => ['.']
  | .parent => ['.', '.']
  | .normal name => name

/-- The path with the given components and no void pieces between them. -/
def ofComponents : List Component → Path
  | .root :: rest => ofPieces .root (rest.map Component.piece)
  | .current :: rest => ofPieces .current (rest.map Component.piece)
  | components => ofPieces .none (components.map Component.piece)

/-- The path spelled without void pieces. -/
def plain (p : Path) : Path :=
  ofComponents p.components

theorem plain_congr (h : p.components = other.components) : p.plain = other.plain := by
  rw [plain, plain, h]

theorem map_piece_filterMap (pieces : List (List Char)) :
    (pieces.filterMap componentOf?).map Component.piece = pieces.filter fun piece => !isVoid piece := by
  induction pieces with
  | nil => rfl
  | cons piece rest ih =>
    by_cases hvoid : isVoid piece = true
    · rw [List.filterMap_cons_none (componentOf?_of_isVoid hvoid), ih,
        List.filter_cons_of_neg (by rw [hvoid]; decide)]
    · -- a name and a step up are spelled as they were
      rw [Bool.not_eq_true] at hvoid
      have hpiece : (componentOf? piece).map Component.piece = some piece := by
        by_cases hparent : piece = ['.', '.']
        · rw [hparent]
          rfl
        · simp [componentOf?, hvoid, hparent, Component.piece]
      obtain ⟨component, hcomponent, hspelled⟩ := Option.map_eq_some_iff.1 hpiece
      rw [List.filterMap_cons_some hcomponent, List.map_cons, ih, hspelled,
        List.filter_cons_of_pos (by rw [hvoid]; rfl)]

/-- The plain spelling of an absolute path has its pieces without the void ones. -/
theorem pieces_plain {rest : List (List Char)} {name : List Char} (h : p.pieces = [] :: rest)
    (hmem : name ∈ rest) (hname : isVoid name = false) :
    p.plain.pieces = [] :: rest.filter fun piece => !isVoid piece := by
  have hne := List.ne_nil_of_mem hmem
  have hfilter : (rest.filter fun piece => !isVoid piece) ≠ [] := by
    apply List.ne_nil_of_mem
    exact List.mem_filter.2 ⟨hmem, by rw [hname]; rfl⟩
  -- the pieces come from splitting at slashes, so they hold none
  have hslash : ∀ piece ∈ rest.filter fun piece => !isVoid piece, '/' ∉ piece := by
    intro piece hpiece
    have hpieces : piece ∈ p.pieces := by
      rw [h]
      exact List.mem_cons_of_mem _ (List.mem_filter.1 hpiece).1
    exact Text.notMem_of_mem_splitOn hpieces
  rw [plain, components_of_pieces hne h, ofComponents, map_piece_filterMap, ofPieces, pieces,
    chars_ofChars, Text.splitOn_cons_self, Text.splitOn_joinWith hfilter hslash]

theorem isAbsolute_plain (h : p.isAbsolute = true) : p.plain.isAbsolute = true := by
  obtain ⟨rest, hne, hpieces⟩ := isAbsolute_iff_pieces.1 h
  rw [plain, components_of_pieces hne hpieces, ofComponents, ofPieces, isAbsolute, chars_ofChars]
  rfl

end QualityGate.Path
