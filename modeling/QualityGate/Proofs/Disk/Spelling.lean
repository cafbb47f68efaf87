/-
The spelling of a path.

Void pieces ask only for a directory, which the next piece asks for as well.  So they can be left out
wherever another piece follows (`follow_filter`), and a path whose last piece is a name leads where its
plain spelling leads (`resolve_plain`).  Behind the name of a file a void piece does make a difference.
-/
import QualityGate.Proofs.Disk.Resolution
import QualityGate.Proofs.Path.Relative

namespace QualityGate.Disk

variable {d : Disk} {jump : List (List Char) → Location → Except IoError Location}

/-- Pieces are followed from a directory only. -/
theorem along_of_not_directory {pieces : List (List Char)} {loc : Location} (hne : pieces ≠ [])
    (hdir : d.isDirectoryAt loc = false) :
    d.along .find jump pieces loc = .error .notDirectory := by
  obtain ⟨piece, rest, rfl⟩ := List.exists_cons_of_ne_nil hne
  rw [along_find_cons, hop, hdir]
  rfl

/-- A void piece before other pieces changes nothing. -/
theorem along_cons_of_isVoid {piece : List Char} {rest : List (List Char)} (hne : rest ≠ [])
    (hvoid : Path.isVoid piece = true) (loc : Location) :
    d.along .find jump (piece :: rest) loc = d.along .find jump rest loc := by
  rcases hdir : d.isDirectoryAt loc with - | -
  · rw [along_of_not_directory (List.cons_ne_nil _ _) hdir, along_of_not_directory hne hdir]
  · rw [along_find_cons, hop, hdir, hvoid]
    rfl

/-- The pieces end in one that is not void. -/
def EndsInName (pieces : List (List Char)) : Prop :=
  ∃ front name, pieces = front ++ [name] ∧ Path.isVoid name = false

theorem EndsInName.ne_nil {pieces : List (List Char)} (h : EndsInName pieces) : pieces ≠ [] := by
  obtain ⟨front, name, rfl, -⟩ := h
  exact List.append_ne_nil_of_right_ne_nil _ (List.cons_ne_nil _ _)

/-- What is behind the first piece ends in a name, or the first piece is that name. -/
theorem EndsInName.tail {piece : List Char} {rest : List (List Char)}
    (h : EndsInName (piece :: rest)) :
    EndsInName rest ∨ rest = [] ∧ Path.isVoid piece = false := by
  obtain ⟨front, name, heq, hname⟩ := h
  cases front with
  | nil =>
    obtain ⟨rfl, rfl⟩ := List.cons_eq_cons.1 heq
    exact .inr ⟨rfl, hname⟩
  | cons first more =>
    obtain ⟨rfl, rfl⟩ := List.cons_eq_cons.1 heq
    exact .inl ⟨more, name, rfl, hname⟩

/-- A path that goes down by names ends in one. -/
theorem endsInName_below (root : Path) {names : List (List Char)} (hne : names ≠ [])
    (h : ∀ name ∈ names, isEntryName name = true) : EndsInName (root.below names).pieces := by
  obtain ⟨front, name, rfl⟩ : ∃ front name, names = front ++ [name] :=
    ⟨_, _, (List.dropLast_concat_getLast hne).symm⟩
  have hname := h name (List.mem_append_right _ (List.mem_singleton_self name))
  have hbelow : root.below (front ++ [name]) = (root.below front).child (String.ofList name) :=
    List.foldl_append
  obtain ⟨pieces, hpieces, -⟩ :=
    Path.exists_pieces_child (root.below front) (Path.isPlainName_of_isEntryName hname)
  obtain ⟨⟨⟨hvoid, -⟩, -⟩, -⟩ := Path.isEntryName_iff.1 hname
  rw [hbelow, hpieces]
  exact ⟨pieces, name, rfl, hvoid⟩

/-- Void pieces are left out, where links lead to pieces from which they can be left out. -/
theorem along_filter {rest : List (List Char)} (h : EndsInName rest)
    (hjump : ∀ ps more loc, EndsInName more →
      jump (ps ++ more.filter fun piece => !Path.isVoid piece) loc = jump (ps ++ more) loc)
    (loc : Location) :
    d.along .find jump (rest.filter fun piece => !Path.isVoid piece) loc =
      d.along .find jump rest loc := by
  induction rest generalizing loc with
  | nil => exact absurd rfl h.ne_nil
  | cons piece more ih =>
    rcases h.tail with hmore | ⟨rfl, hname⟩
    · -- a name follows, so a void piece asks for nothing that is not asked for again
      rcases hvoid : Path.isVoid piece with - | -
      · rw [List.filter_cons_of_pos (by rw [hvoid]; rfl), along_find_cons, along_find_cons]
        rcases d.hop piece loc with cause | next | target
        · rfl
        · exact ih hmore next
        · exact hjump _ more _ hmore
      · rw [List.filter_cons_of_neg (by rw [hvoid]; decide), along_cons_of_isVoid hmore.ne_nil hvoid]
        exact ih hmore loc
    · -- the name is all that is left
      rw [List.filter_cons_of_pos (by rw [hname]; rfl), List.filter_nil]

/-- As `along_filter`, behind pieces that are kept as they are. -/
theorem along_append_filter {rest : List (List Char)} (h : EndsInName rest)
    (hjump : ∀ ps more loc, EndsInName more →
      jump (ps ++ more.filter fun piece => !Path.isVoid piece) loc = jump (ps ++ more) loc)
    (ps : List (List Char)) (loc : Location) :
    d.along .find jump (ps ++ rest.filter fun piece => !Path.isVoid piece) loc =
      d.along .find jump (ps ++ rest) loc := by
  induction ps generalizing loc with
  | nil => exact along_filter h hjump loc
  | cons piece others ih =>
    rw [List.cons_append, List.cons_append, along_find_cons, along_find_cons]
    rcases d.hop piece loc with cause | next | target
    · rfl
    · exact ih next
    · simp only [← List.append_assoc]
      exact hjump _ rest _ h

/-- Void pieces before a name can be left out. -/
theorem follow_filter {rest : List (List Char)} (h : EndsInName rest) (links : Nat)
    (ps : List (List Char)) (loc : Location) :
    d.follow .find links (ps ++ rest.filter fun piece => !Path.isVoid piece) loc =
      d.follow .find links (ps ++ rest) loc := by
  induction links generalizing rest ps loc with
  | zero => exact along_append_filter h (fun _ _ _ _ => rfl) ps loc
  | succ links ih => exact along_append_filter h (fun ps _ loc hmore => ih hmore ps loc) ps loc

/-- An absolute path that ends in a name leads where its plain spelling leads. -/
theorem resolve_plain {p : Path} (habsolute : p.isAbsolute = true) (h : EndsInName p.pieces) :
    d.resolve .find p.plain = d.resolve .find p := by
  obtain ⟨rest, hne, hpieces⟩ := Path.isAbsolute_iff_pieces.1 habsolute
  have hplain := Path.isAbsolute_plain habsolute
  have htext {q : Path} (hq : q.isAbsolute = true) : q.text ≠ "" := fun hempty =>
    Path.chars_ne_nil_of_isAbsolute hq (String.toList_eq_nil_iff.2 hempty)
  rw [hpieces] at h
  -- the empty piece before the first slash stays, and the void ones behind it go
  have hrest : EndsInName rest := by
    rcases h.tail with hrest | ⟨hnil, -⟩
    · exact hrest
    · exact absurd hnil hne
  obtain ⟨front, name, hname, hvoid⟩ := hrest
  have hmem : name ∈ rest := by
    rw [hname]
    exact List.mem_append_right _ (List.mem_singleton_self _)
  rw [resolve, resolve, if_neg (htext hplain), if_neg (htext habsolute), Path.startFrom,
    Path.startFrom, hplain, habsolute, Path.pieces_plain hpieces hmem hvoid, hpieces]
  exact follow_filter ⟨front, name, hname, hvoid⟩ linkLimit [[]] []

end QualityGate.Disk
