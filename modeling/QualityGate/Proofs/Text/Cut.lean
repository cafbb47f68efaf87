/-
Cutting a text that is put together from parts.

A separator between two texts ends the pieces of the first and starts those of the second
(`splitOn_append_cons`); a text without the separator is its only piece, and every text is its pieces,
joined (`joinWith_splitOn`).  For lines this says that a closed first part keeps its lines whatever
follows it (`lines_append_cons`), and that replacing other characters than line ends replaces them in
the lines (`lines_map`).
-/
import QualityGate.Text.Cut

namespace QualityGate.Text

variable {sep c : Char} {s t : List Char}

/-! ### Runs -/

/-- A run of characters of a class ends where the first other character stands. -/
theorem takeWhile_run {p : Char → Bool} (hs : ∀ c ∈ s, p c = true)
    (ht : ∀ c, t.head? = some c → p c = false) :
    (s ++ t).takeWhile p = s ∧ (s ++ t).dropWhile p = t := by
  rw [List.takeWhile_append_of_pos hs, List.dropWhile_append_of_pos hs]
  cases t with
  | nil => exact ⟨List.append_nil s, rfl⟩
  | cons c t =>
    have hc : p c = false := ht c rfl
    rw [List.takeWhile_cons, List.dropWhile_cons, hc]
    exact ⟨List.append_nil s, rfl⟩

/-! ### Pieces -/

theorem splitOn_ne_nil (sep : Char) (s : List Char) : splitOn sep s ≠ [] :=
  List.cons_ne_nil _ _

theorem splitOn_cons_self (sep : Char) (s : List Char) :
    splitOn sep (sep :: s) = [] :: splitOn sep s := by
  rw [splitOn, cut_cons, if_pos rfl]
  rfl

theorem splitOn_cons_of_ne (h : c ≠ sep) (s : List Char) :
    splitOn sep (c :: s) = (c :: (cut sep s).1) :: (cut sep s).2 := by
  rw [splitOn, cut_cons, if_neg h]

theorem splitOn_ne_singleton_nil (h : s ≠ []) : splitOn sep s ≠ [[]] := by
  obtain ⟨c, rest, rfl⟩ := List.exists_cons_of_ne_nil h
  by_cases hc : c = sep
  · rw [hc, splitOn_cons_self]
    intro heq
    exact splitOn_ne_nil sep rest (List.cons_eq_cons.1 heq).2
  · rw [splitOn_cons_of_ne hc]
    intro heq
    exact List.cons_ne_nil _ _ (List.cons_eq_cons.1 heq).1

theorem splitOn_of_notMem (h : sep ∉ s) : splitOn sep s = [s] := by
  induction s with
  | nil => rfl
  | cons c s ih =>
    obtain ⟨hc, hs⟩ := not_or.1 (mt List.mem_cons.2 h)
    obtain ⟨hfirst, hothers⟩ := List.cons_eq_cons.1 (ih hs)
    rw [splitOn_cons_of_ne (Ne.symm hc), hfirst, hothers]

theorem splitOn_append_cons (sep : Char) (s t : List Char) :
    splitOn sep (s ++ sep :: t) = splitOn sep s ++ splitOn sep t := by
  induction s with
  | nil => exact splitOn_cons_self sep t
  | cons c s ih =>
    rw [List.cons_append]
    by_cases hc : c = sep
    · rw [hc, splitOn_cons_self, splitOn_cons_self, ih, List.cons_append]
    · obtain ⟨hfirst, hothers⟩ := List.cons_eq_cons.1 ih
      rw [splitOn_cons_of_ne hc, splitOn_cons_of_ne hc, hfirst, hothers]
      rfl

/-- No separator is in a piece. -/
theorem notMem_of_mem_splitOn {piece : List Char} (h : piece ∈ splitOn sep s) : sep ∉ piece := by
  induction s generalizing piece with
  | nil =>
    rw [splitOn_nil, List.mem_singleton] at h
    rw [h]
    exact List.not_mem_nil
  | cons c s ih =>
    by_cases hc : c = sep
    · rw [hc, splitOn_cons_self] at h
      rcases List.mem_cons.1 h with rfl | h
      · exact List.not_mem_nil
      · exact ih h
    · rw [splitOn_cons_of_ne hc] at h
      rcases List.mem_cons.1 h with rfl | h
      · intro hmem
        rcases List.mem_cons.1 hmem with rfl | hmem
        · exact hc rfl
        · exact ih List.mem_cons_self hmem
      · exact ih (List.mem_cons_of_mem _ h)

/-- The characters of a piece are characters of the text. -/
theorem mem_of_mem_splitOn {piece : List Char} (h : piece ∈ splitOn sep s) (hc : c ∈ piece) :
    c ∈ s := by
  induction s generalizing piece with
  | nil =>
    rw [splitOn_nil, List.mem_singleton] at h
    rw [h] at hc
    exact hc
  | cons d s ih =>
    by_cases hd : d = sep
    · rw [hd, splitOn_cons_self] at h
      rcases List.mem_cons.1 h with rfl | h
      · cases hc
      · exact List.mem_cons_of_mem _ (ih h hc)
    · rw [splitOn_cons_of_ne hd] at h
      rcases List.mem_cons.1 h with rfl | h
      · rcases List.mem_cons.1 hc with rfl | hc
        · exact List.mem_cons_self
        · exact List.mem_cons_of_mem _ (ih List.mem_cons_self hc)
      · exact List.mem_cons_of_mem _ (ih (List.mem_cons_of_mem _ h) hc)

/-- Pieces that are joined are cut apart again. -/
theorem splitOn_joinWith {pieces : List (List Char)} (hne : pieces ≠ [])
    (h : ∀ piece ∈ pieces, sep ∉ piece) : splitOn sep (joinWith [sep] pieces) = pieces := by
  induction pieces with
  | nil => exact absurd rfl hne
  | cons piece rest ih =>
    obtain ⟨hpiece, hrest⟩ := List.forall_mem_cons.1 h
    cases rest with
    | nil => exact splitOn_of_notMem hpiece
    -- behind the first separator stands the join of the rest
    | cons next more =>
      rw [joinWith, List.append_assoc, List.singleton_append, splitOn_append_cons,
        splitOn_of_notMem hpiece, ih (List.cons_ne_nil next more) hrest]
      rfl

/-- A text is its pieces, joined. -/
theorem joinWith_splitOn (sep : Char) (s : List Char) : joinWith [sep] (splitOn sep s) = s := by
  induction s with
  | nil => rfl
  | cons c s ih =>
    by_cases hc : c = sep
    · rw [hc, splitOn_cons_self, splitOn, joinWith, ← splitOn, ih]
      rfl
    · rw [splitOn] at ih
      rw [splitOn_cons_of_ne hc]
      -- the first piece is one character longer, whether or not there are others
      rcases hothers : (cut sep s).2 with - | ⟨next, more⟩
      all_goals
        rw [hothers, joinWith] at ih
        rw [joinWith]
      · rw [ih]
      · rw [List.cons_append, List.cons_append, ih]

theorem joinWith_append {xs ys : List (List Char)} (hxs : xs ≠ []) (hys : ys ≠ [])
    (between : List Char) :
    joinWith between (xs ++ ys) = joinWith between xs ++ between ++ joinWith between ys := by
  induction xs with
  | nil => exact absurd rfl hxs
  | cons x xs ih =>
    cases xs with
    | nil =>
      obtain ⟨y, ys, rfl⟩ := List.exists_cons_of_ne_nil hys
      rfl
    | cons x' xs =>
      have hrest := ih (List.cons_ne_nil _ _)
      simp only [List.cons_append, joinWith, List.append_assoc] at hrest ⊢
      rw [hrest]

/-! ### Lines -/

theorem lines_append_cons (s t : List Char) :
    lines (s ++ '\n' :: t) = (splitOn '\n' s).map dropReturn ++ lines t := by
  have hne := splitOn_ne_nil '\n' t
  have hlast : (splitOn '\n' s ++ splitOn '\n' t).getLast? = (splitOn '\n' t).getLast? := by
    rw [List.getLast?_append, List.getLast?_eq_some_getLast hne, Option.some_or]
  simp only [lines, splitOn_append_cons, List.dropLast_append_of_ne_nil hne, hlast,
    List.map_append, List.append_assoc]
  split <;> rfl

/-- A line is a piece between line feeds, perhaps without its end. -/
theorem exists_piece_of_mem_lines {line : List Char} (h : line ∈ lines s) :
    ∃ piece ∈ splitOn '\n' s, line <+: piece := by
  -- of a closed line perhaps a carriage return was dropped
  have hclosed (h : line ∈ (splitOn '\n' s).dropLast.map dropReturn) :
      ∃ piece ∈ splitOn '\n' s, line <+: piece := by
    obtain ⟨piece, hpiece, rfl⟩ := List.mem_map.1 h
    refine ⟨piece, List.dropLast_subset _ hpiece, ?_⟩
    rw [dropReturn]
    split
    · exact List.dropLast_prefix piece
    · exact List.prefix_rfl
  rw [lines] at h
  split at h
  · next c rest hlast =>
    rcases List.mem_append.1 h with h | h
    · exact hclosed h
    · rw [List.mem_singleton.1 h]
      exact ⟨_, List.mem_of_getLast? hlast, List.prefix_rfl⟩
  · exact hclosed h

section Map

variable {f : Char → Char}

theorem splitOn_map (h : ∀ c, f c = sep ↔ c = sep) (s : List Char) :
    splitOn sep (s.map f) = (splitOn sep s).map (List.map f) := by
  induction s with
  | nil => rfl
  | cons c s ih =>
    rw [List.map_cons]
    by_cases hc : c = sep
    · rw [(h c).2 hc, hc, splitOn_cons_self, splitOn_cons_self, ih, List.map_cons, List.map_nil]
    · obtain ⟨hfirst, hothers⟩ := List.cons_eq_cons.1 ih
      rw [splitOn_cons_of_ne hc, splitOn_cons_of_ne (mt (h c).1 hc), hfirst, hothers]
      rfl

theorem dropReturn_map (h : ∀ c, f c = '\r' ↔ c = '\r') (line : List Char) :
    dropReturn (line.map f) = (dropReturn line).map f := by
  have hlast : (line.map f).getLast? = some '\r' ↔ line.getLast? = some '\r' := by
    rw [List.getLast?_map, Option.map_eq_some_iff]
    simp only [h, exists_eq_right]
  rw [dropReturn, dropReturn, apply_ite (List.map f), List.map_dropLast]
  simp only [hlast]

/-- Characters that are replaced, but for the ends of lines, are replaced in the lines. -/
theorem lines_map (hfeed : ∀ c, f c = '\n' ↔ c = '\n') (hreturn : ∀ c, f c = '\r' ↔ c = '\r')
    (s : List Char) : lines (s.map f) = (lines s).map (List.map f) := by
  have hclosed : ((splitOn '\n' s).map (List.map f)).dropLast.map dropReturn =
      ((splitOn '\n' s).dropLast.map dropReturn).map (List.map f) := by
    rw [← List.map_dropLast, List.map_map, List.map_map]
    exact List.map_congr_left fun line _ => dropReturn_map hreturn line
  simp only [lines, splitOn_map hfeed, hclosed, List.getLast?_map]
  -- what stands behind the last feed is a line unless it is empty
  rcases (splitOn '\n' s).getLast? with - | (- | ⟨c, line⟩)
  · rfl
  · rfl
  · show _ = List.map (List.map f) (_ ++ [c :: line])
    rw [List.map_append]
    rfl

end Map

/-- A line that ends in no carriage return is read as it stands. -/
theorem lines_line (h : '\n' ∉ s) (hend : s.getLast? ≠ some '\r') (t : List Char) :
    lines (s ++ '\n' :: t) = s :: lines t := by
  rw [lines_append_cons, splitOn_of_notMem h, List.map_singleton, dropReturn, if_neg hend,
    List.singleton_append]

/-- A last line that is not empty is read as it stands. -/
theorem lines_of_notMem (h : '\n' ∉ s) (hne : s ≠ []) : lines s = [s] := by
  obtain ⟨c, rest, rfl⟩ := List.exists_cons_of_ne_nil hne
  rw [lines, splitOn_of_notMem h]
  rfl

/-- The text is one line: it is not empty, no line feed is in it, and no carriage return ends it. -/
structure IsLine (s : List Char) : Prop where
  ne_nil : s ≠ []
  notMem : '\n' ∉ s
  getLast?_ne : s.getLast? ≠ some '\r'

/-- Lines with a line feed between them are read as they stand. -/
theorem lines_append_flatMap {first : List Char} {more : List (List Char)} (hfirst : IsLine first)
    (hmore : ∀ line ∈ more, IsLine line) :
    lines (first ++ more.flatMap fun line => '\n' :: line) = first :: more := by
  induction more generalizing first with
  | nil =>
    rw [List.flatMap_nil, List.append_nil]
    exact lines_of_notMem hfirst.notMem hfirst.ne_nil
  | cons next rest ih =>
    obtain ⟨hnext, hrest⟩ := List.forall_mem_cons.1 hmore
    rw [List.flatMap_cons, List.cons_append, lines_line hfirst.notMem hfirst.getLast?_ne,
      ih hnext hrest]

/-- The characters end no line. -/
def IsInLine (s : List Char) : Prop :=
  ∀ c ∈ s, c ≠ '\n' ∧ c ≠ '\r'

instance (s : List Char) : Decidable (IsInLine s) :=
  decidable_of_iff (s.all fun c => c ≠ '\n' && c ≠ '\r') (by simp [IsInLine])

theorem IsInLine.isLine (h : IsInLine s) (hne : s ≠ []) : IsLine s where
  ne_nil := hne
  notMem := fun hmem => (h _ hmem).1 rfl
  getLast?_ne := fun hlast => (h _ (List.mem_of_getLast? hlast)).2 rfl

theorem isInLine_append (hs : IsInLine s) (ht : IsInLine t) : IsInLine (s ++ t) :=
  List.forall_mem_append.2 ⟨hs, ht⟩

/-- Lines that are each ended by a line feed are read as they stand. -/
theorem lines_flatMap {closed : List (List Char)} (h : ∀ line ∈ closed, IsInLine line) :
    lines (closed.flatMap fun line => line ++ ['\n']) = closed := by
  induction closed with
  | nil => rfl
  | cons line rest ih =>
    obtain ⟨hline, hrest⟩ := List.forall_mem_cons.1 h
    have hfeed : '\n' ∉ line := fun hmem => (hline _ hmem).1 rfl
    have hreturn : line.getLast? ≠ some '\r' := fun hlast =>
      (hline _ (List.mem_of_getLast? hlast)).2 rfl
    rw [List.flatMap_cons, List.append_assoc, List.singleton_append, lines_line hfeed hreturn, ih hrest]

end QualityGate.Text
