/-
Paths below a path.

`root.below names` goes down from `root` by one plain name after another.  Its last piece is the last
name, and its components are those of `root` followed by the names (`components_below`), so two
descents from one path that differ in a name end on different paths.
-/
import QualityGate.Disk.Resolve
import QualityGate.Proofs.Text.Cut

namespace QualityGate.Path

/-- The path that names lead down to from `root`. -/
def below (root : Path) (names : List (List Char)) : Path :=
  names.foldl (fun path name => path.child (String.ofList name)) root

@[simp] theorem below_nil (root : Path) : root.below [] = root := rfl

@[simp] theorem below_cons (root : Path) (name : List Char) (names : List (List Char)) :
    root.below (name :: names) = (root.child (String.ofList name)).below names := rfl

/-! ### Names -/

/-- A name that goes down by one step: it is neither void nor `..`, and no slash is in it. -/
def IsPlainName (name : List Char) : Prop :=
  (isVoid name = false ∧ name ≠ ['.', '.']) ∧ '/' ∉ name

instance (name : List Char) : Decidable (IsPlainName name) :=
  inferInstanceAs (Decidable (_ ∧ _))

/-- What a name that an entry can have is not. -/
theorem isEntryName_iff {name : List Char} :
    isEntryName name = true ↔ IsPlainName name ∧ (Text.encode name).length ≤ nameLimit := by
  simp [isEntryName, IsPlainName]

theorem isPlainName_of_isEntryName {name : List Char} (h : isEntryName name = true) :
    IsPlainName name :=
  (isEntryName_iff.1 h).1

variable {name : List Char}

/-- The name of an entry is a component by that name. -/
theorem componentOf?_of_isEntryName (h : isEntryName name = true) :
    componentOf? name = some (.normal name) := by
  obtain ⟨⟨⟨hvoid, hparent⟩, -⟩, -⟩ := isEntryName_iff.1 h
  simp [componentOf?, hvoid, hparent]

theorem isAbsolute_of_isPlainName (h : IsPlainName name) :
    isAbsolute ⟨String.ofList name⟩ = false := by
  obtain ⟨-, hslash⟩ := h
  cases name with
  | nil => rfl
  | cons c rest =>
    have hc : c ≠ '/' := fun h => hslash (h ▸ List.mem_cons_self)
    simp [isAbsolute, chars, hc]

/-! ### Pieces -/

@[simp] theorem chars_ofChars (s : List Char) : (ofChars s).chars = s :=
  String.toList_ofList

/-- A relative path is put behind a slash, unless one is there or nothing is. -/
theorem chars_join (base : Path) {other : Path} (h : other.isAbsolute = false) :
    (base.join other).chars =
      if base.chars = [] ∨ base.chars.getLast? = some '/' then base.chars ++ other.chars
      else base.chars ++ '/' :: other.chars := by
  rw [join, h]
  simp only [Bool.false_eq_true, if_false, Bool.or_eq_true, decide_eq_true_eq]
  split <;> exact chars_ofChars _

/-- An entry is put behind a slash, unless one is there or nothing is. -/
theorem chars_child (base : Path) (h : IsPlainName name) :
    (base.child (String.ofList name)).chars =
      if base.chars = [] ∨ base.chars.getLast? = some '/' then base.chars ++ name
      else base.chars ++ '/' :: name := by
  have hchars : chars ⟨String.ofList name⟩ = name := String.toList_ofList
  rw [child, chars_join base (isAbsolute_of_isPlainName h), hchars]

theorem text_child_ne_empty {base : Path} (hne : base.text ≠ "") (h : IsPlainName name) :
    (base.child (String.ofList name)).text ≠ "" := by
  have hchars : base.chars ≠ [] := fun h => hne (String.toList_eq_nil_iff.1 h)
  intro hempty
  have hempty' := congrArg String.toList hempty
  rw [← chars, chars_child base h] at hempty'
  split at hempty' <;> simp [hchars] at hempty'

/-- A path stays what it is when a relative one is put behind it. -/
theorem isAbsolute_join {base other : Path} (hne : base.chars ≠ []) (h : other.isAbsolute = false) :
    (base.join other).isAbsolute = base.isAbsolute := by
  rw [isAbsolute, isAbsolute, chars_join base h]
  obtain ⟨c, rest, hchars⟩ := List.exists_cons_of_ne_nil hne
  rw [hchars]
  split <;> rfl

theorem isAbsolute_child {base : Path} (hne : base.chars ≠ []) (h : IsPlainName name) :
    (base.child (String.ofList name)).isAbsolute = base.isAbsolute :=
  isAbsolute_join hne (isAbsolute_of_isPlainName h)

/-- The pieces of a path taken from a base: those of the base, without the empty piece behind a slash
that ends it, and then its own. -/
theorem exists_pieces_join (base : Path) {other : Path} (h : other.isAbsolute = false) :
    ∃ front, (base.join other).pieces = front ++ other.pieces ∧
      (base.pieces = front ++ [[]] ∨ base.pieces = front ∧ front ≠ [[]]) := by
  rw [pieces, pieces, pieces, chars_join base h]
  -- an empty base goes, and so does the empty piece behind a last slash
  by_cases hempty : base.chars = []
  · refine ⟨[], ?_, .inl ?_⟩
    · rw [if_pos (.inl hempty), hempty]
      rfl
    · rw [hempty]
      rfl
  · by_cases hslash : base.chars.getLast? = some '/'
    · obtain ⟨start, hstart⟩ := List.getLast?_eq_some_iff.1 hslash
      refine ⟨Text.splitOn '/' start, ?_, .inl ?_⟩
      · rw [if_pos (.inr hslash), hstart, List.append_assoc, List.singleton_append,
          Text.splitOn_append_cons]
      · rw [hstart, Text.splitOn_append_cons]
        rfl
    · refine ⟨Text.splitOn '/' base.chars, ?_, .inr ⟨rfl, Text.splitOn_ne_singleton_nil hempty⟩⟩
      rw [if_neg (not_or.2 ⟨hempty, hslash⟩), Text.splitOn_append_cons]

theorem exists_pieces_child (base : Path) (h : IsPlainName name) :
    ∃ front, (base.child (String.ofList name)).pieces = front ++ [name] ∧
      (base.pieces = front ++ [[]] ∨ base.pieces = front ∧ front ≠ [[]]) := by
  have hpieces : pieces ⟨String.ofList name⟩ = [name] := by
    rw [pieces, chars, String.toList_ofList]
    exact Text.splitOn_of_notMem h.2
  rw [← hpieces]
  exact exists_pieces_join base (isAbsolute_of_isPlainName h)

/-! ### Components -/

/-- The components that pieces stand for. -/
def componentsOf : List (List Char) → List Component
  | [] :: next :: rest => .root :: (next :: rest).filterMap componentOf?
  | ['.'] :: rest => .current :: rest.filterMap componentOf?
  | pieces => pieces.filterMap componentOf?

/-- Where no root and no leading dot stands, the components are those of the pieces. -/
theorem componentsOf_of_ne {pieces : List (List Char)}
    (hroot : ∀ next rest, pieces ≠ [] :: next :: rest) (hcurrent : ∀ rest, pieces ≠ ['.'] :: rest) :
    componentsOf pieces = pieces.filterMap componentOf? := by
  unfold componentsOf
  split
  · exact absurd rfl (hroot _ _)
  · exact absurd rfl (hcurrent _)
  · rfl

/-- The components of a path are those of its pieces. -/
theorem components_eq (p : Path) : p.components = componentsOf p.pieces := by
  unfold components body lead
  rw [show Text.splitOn '/' p.chars = p.pieces from rfl]
  split
  · next heq =>
    rw [heq]
    rfl
  · next heq =>
    rw [heq]
    rfl
  · next hroot hcurrent =>
    rw [componentsOf_of_ne hroot hcurrent]
    by_cases hchars : p.chars = []
    · rw [if_pos hchars, pieces, hchars]
      rfl
    · rw [if_neg hchars]
      rfl

/-- Pieces behind others stand for themselves, unless an empty piece before them becomes the root. -/
theorem componentsOf_append {front : List (List Char)} (hne : front ≠ []) (hroot : front ≠ [[]])
    (more : List (List Char)) :
    componentsOf (front ++ more) = componentsOf front ++ more.filterMap componentOf? := by
  obtain ⟨first, rest, rfl⟩ := List.exists_cons_of_ne_nil hne
  -- only the first pieces are looked at twice: an empty one for the root, a dot for here
  by_cases hfirst : first = []
  · subst hfirst
    have hrest : rest ≠ [] := fun h => hroot (by rw [h])
    obtain ⟨next, more', rfl⟩ := List.exists_cons_of_ne_nil hrest
    simp only [List.cons_append, componentsOf]
    rw [← List.cons_append, List.filterMap_append]
  · by_cases hcurrent : first = ['.']
    · subst hcurrent
      simp only [List.cons_append, componentsOf, List.filterMap_append]
    · have hother (rest : List (List Char)) :
          componentsOf (first :: rest) = (first :: rest).filterMap componentOf? :=
        componentsOf_of_ne (fun _ _ h => hfirst (List.cons_eq_cons.1 h).1)
          fun _ h => hcurrent (List.cons_eq_cons.1 h).1
      rw [List.cons_append, hother, hother, ← List.cons_append, List.filterMap_append]

theorem componentsOf_singleton (h : isEntryName name = true) :
    componentsOf [name] = [.normal name] := by
  rw [componentsOf_of_ne]
  · rw [List.filterMap_cons_some (componentOf?_of_isEntryName h)]
    rfl
  · simp
  · rintro rest heq
    obtain ⟨rfl, -⟩ := List.cons_eq_cons.1 heq
    simp [isEntryName, isVoid] at h

/-- An entry adds its name to the components. -/
theorem components_child (base : Path) (h : isEntryName name = true) :
    (base.child (String.ofList name)).components = base.components ++ [.normal name] := by
  have hname : [name].filterMap componentOf? = [.normal name] := by
    rw [List.filterMap_cons_some (componentOf?_of_isEntryName h)]
    rfl
  obtain ⟨front, hchild, hbase⟩ := exists_pieces_child base (isPlainName_of_isEntryName h)
  rw [components_eq, components_eq, hchild]
  by_cases hempty : front = []
  · -- the base is the empty path
    subst hempty
    rcases hbase with hbase | ⟨hbase, -⟩
    · rw [hbase]
      exact componentsOf_singleton h
    · exact absurd hbase (Text.splitOn_ne_nil _ _)
  · by_cases hroot : front = [[]]
    · -- the base is the root
      subst hroot
      rcases hbase with hbase | ⟨-, hne⟩
      · rw [hbase, List.singleton_append, List.singleton_append, componentsOf, hname]
        rfl
      · exact absurd rfl hne
    · rw [componentsOf_append hempty hroot, hname]
      rcases hbase with hbase | ⟨hbase, -⟩
      · rw [hbase, componentsOf_append hempty hroot]
        simp [componentOf?, isVoid]
      · rw [hbase]

/-- Names below a directory are added to its components. -/
theorem components_below (root : Path) {names : List (List Char)}
    (h : ∀ name ∈ names, isEntryName name = true) :
    (root.below names).components = root.components ++ names.map .normal := by
  induction names generalizing root with
  | nil => simp
  | cons name rest ih =>
    obtain ⟨hname, hrest⟩ := List.forall_mem_cons.1 h
    rw [below_cons, ih _ hrest, components_child root hname, List.append_assoc]
    rfl

/-! ### Two bases -/

theorem eq_of_chars {p q : Path} (h : p.chars = q.chars) : p = q := by
  cases p
  cases q
  exact congrArg Path.mk (String.toList_inj.1 h)

theorem join_of_isAbsolute (base : Path) {other : Path} (h : other.isAbsolute = true) :
    base.join other = other := by
  rw [join, if_pos h]

/-- An empty path taken from a base adds a slash at most, which then stands before what follows. -/
theorem join_assoc_of_empty (a : Path) {b c : Path} (hb : b.chars = []) (hc : c.isAbsolute = false) :
    (a.join b).join c = a.join (b.join c) := by
  have hrelative : b.isAbsolute = false := by
    rw [isAbsolute, hb]
    rfl
  have hjoin : b.join c = c := by
    apply eq_of_chars
    rw [chars_join b hc, if_pos (.inl hb), hb, List.nil_append]
  apply eq_of_chars
  rw [hjoin, chars_join _ hc, chars_join a hrelative, chars_join a hc, hb, List.append_nil]
  by_cases hend : a.chars = [] ∨ a.chars.getLast? = some '/'
  · simp only [if_pos hend]
  · rw [if_neg hend, if_pos (.inr List.getLast?_concat), if_neg hend, List.append_assoc]
    rfl

/-- What is taken from a path goes on where that path ends, from wherever the path is taken. -/
theorem join_assoc_of_relative (a : Path) {b c : Path} (hne : b.chars ≠ [])
    (hb : b.isAbsolute = false) (hc : c.isAbsolute = false) :
    (a.join b).join c = a.join (b.join c) := by
  have hbc : (b.join c).isAbsolute = false := by
    rw [isAbsolute_join hne hc]
    exact hb
  obtain ⟨last, hlast⟩ : ∃ last, b.chars.getLast? = some last :=
    ⟨_, List.getLast?_eq_some_getLast hne⟩
  have hcons : ('/' :: b.chars).getLast? = some last := by
    rw [List.getLast?_cons, hlast]
    rfl
  apply eq_of_chars
  rw [chars_join _ hc, chars_join a hb, chars_join a hbc, chars_join b hc]
  -- whether a slash is put depends on the ends of both bases
  by_cases hend : a.chars = [] ∨ a.chars.getLast? = some '/' <;> by_cases hslash : last = '/' <;>
    simp [hend, hne, hlast, hcons, hslash]

/-- A path may be taken from a base before or after the base is taken from another one. -/
theorem join_assoc (a b c : Path) : (a.join b).join c = a.join (b.join c) := by
  rcases hc : c.isAbsolute with - | -
  · by_cases hne : b.chars = []
    · exact join_assoc_of_empty a hne hc
    · rcases hb : b.isAbsolute with - | -
      · exact join_assoc_of_relative a hne hb hc
      · have hbc : (b.join c).isAbsolute = true := by
          rw [isAbsolute_join hne hc]
          exact hb
        rw [join_of_isAbsolute a hb, join_of_isAbsolute a hbc]
  · rw [join_of_isAbsolute _ hc, join_of_isAbsolute b hc, join_of_isAbsolute a hc]

/-- Going down two lists of names is going down both in turn. -/
theorem below_append (root : Path) (front rest : List (List Char)) :
    root.below (front ++ rest) = (root.below front).below rest :=
  List.foldl_append

/-- Names below a path that is taken from a base are names below the path from that base. -/
theorem join_below (base dir : Path) (names : List (List Char)) :
    base.join (dir.below names) = (base.join dir).below names := by
  induction names generalizing dir with
  | nil => rfl
  | cons name rest ih =>
    rw [below_cons, below_cons, ih]
    show (base.join (dir.join ⟨String.ofList name⟩)).below rest =
      ((base.join dir).join ⟨String.ofList name⟩).below rest
    rw [join_assoc]

end QualityGate.Path
