/-
The grammar of JSON texts, and the reader on them.

`SpellsPadded` relates the texts of the standard to the values they denote: blanks may stand around
every token, numbers are those of `IsNumber` and strings those of `SpellsString`, and a text need not
be one that is written here.  The reader takes each such text for what it spells (`parse?_of_spells`).

The bound of the reader is never reached: the text that is still to be read is longer.
-/
import QualityGate.Proofs.Json.Numeral
import QualityGate.Proofs.Json.Quote

namespace QualityGate.Json

/-! ### Spelling -/

/-- Blanks between tokens. -/
def IsSpaces (s : List Char) : Prop :=
  ∀ c ∈ s, c = ' ' ∨ c = '\t' ∨ c = '\n' ∨ c = '\r'

/-- The name of a member with its quotes, and perhaps with blanks around. -/
inductive SpellsName : List Char → Option String → Prop
  | intro {before s after : List Char} {name : Option String} (hbefore : IsSpaces before)
    (hs : SpellsString s name) (hafter : IsSpaces after) :
    SpellsName (before ++ '\"' :: (s ++ '\"' :: after)) name

mutual

/-- The text spells the value, without blanks around it. -/
inductive Spells : List Char → Json → Prop
  | null : Spells "null".toList .null
  | boolTrue : Spells "true".toList (.bool true)
  | boolFalse : Spells "false".toList (.bool false)
  | number {s : List Char} (hs : IsNumber s) : Spells s (.number (String.ofList s))
  | string {s : List Char} {text : Option String} (hs : SpellsString s text) :
    Spells ('\"' :: (s ++ ['\"'])) (.string text)
  | noItems {gap : List Char} (hgap : IsSpaces gap) : Spells ('[' :: (gap ++ [']'])) (.array [])
  | array {s : List Char} {items : List Json} (hs : SpellsItems s items) :
    Spells ('[' :: (s ++ [']'])) (.array items)
  | noMembers {gap : List Char} (hgap : IsSpaces gap) :
    Spells ('\x7b' :: (gap ++ ['\x7d'])) (.object [])
  | object {s : List Char} {members : List (Option String × Json)} (hs : SpellsMembers s members) :
    Spells ('\x7b' :: (s ++ ['\x7d'])) (.object members)

/-- The text spells the value, perhaps with blanks around it. -/
inductive SpellsPadded : List Char → Json → Prop
  | intro {before s after : List Char} {value : Json} (hbefore : IsSpaces before)
    (hs : Spells s value) (hafter : IsSpaces after) : SpellsPadded (before ++ (s ++ after)) value

/-- The text spells the items, at least one, with commas between them. -/
inductive SpellsItems : List Char → List Json → Prop
  | last {s : List Char} {item : Json} (hs : SpellsPadded s item) : SpellsItems s [item]
  | more {s t : List Char} {item : Json} {items : List Json} (hs : SpellsPadded s item)
    (ht : SpellsItems t items) : SpellsItems (s ++ ',' :: t) (item :: items)

/-- The text spells the members, at least one, with commas between them. -/
inductive SpellsMembers : List Char → List (Option String × Json) → Prop
  | last {s t : List Char} {name : Option String} {value : Json} (hname : SpellsName s name)
    (ht : SpellsPadded t value) : SpellsMembers (s ++ ':' :: t) [(name, value)]
  | more {s t more : List Char} {name : Option String} {value : Json}
    {members : List (Option String × Json)} (hname : SpellsName s name) (ht : SpellsPadded t value)
    (hmore : SpellsMembers more members) :
    SpellsMembers (s ++ ':' :: (t ++ ',' :: more)) ((name, value) :: members)

end

variable {bound : Nat} {s t rest gap : List Char} {value : Json} {items : List Json}
  {members : List (Option String × Json)} {name : Option String}

/-! ### Blanks -/

theorem IsSpaces.nil : IsSpaces [] :=
  List.forall_mem_nil _

theorem IsSpaces.isSpace (h : IsSpaces gap) : ∀ c ∈ gap, isSpace c = true := by
  intro c hc
  rcases h c hc with rfl | rfl | rfl | rfl <;> rfl

/-- Space in front of a text is skipped. -/
theorem skipSpace_append (h : IsSpaces gap) (s : List Char) : skipSpace (gap ++ s) = skipSpace s :=
  List.dropWhile_append_of_pos h.isSpace

theorem skipSpace_cons {c : Char} (h : isSpace c = false) (s : List Char) :
    skipSpace (c :: s) = c :: s := by
  rw [skipSpace, List.dropWhile_cons, h]
  rfl

theorem skipSpace_append_cons {c : Char} (hgap : IsSpaces gap) (h : isSpace c = false)
    (s : List Char) : skipSpace (gap ++ c :: s) = c :: s := by
  rw [skipSpace_append hgap, skipSpace_cons h]

theorem readValue?_append (h : IsSpaces gap) (bound : Nat) (s : List Char) :
    readValue? bound (gap ++ s) = readValue? bound s := by
  cases bound with
  | zero => rfl
  | succ bound => rw [readValue?, readValue?, skipSpace_append h]

/-- Neither blanks nor the characters that stand behind a value go on with a number. -/
theorem endsNumber_append {c : Char} (hgap : IsSpaces gap) (hc : c = ',' ∨ c = ']' ∨ c = '\x7d')
    (s : List Char) : EndsNumber (gap ++ c :: s) := by
  intro d hd
  cases gap with
  | nil =>
    obtain rfl := Option.some.inj hd
    rcases hc with rfl | rfl | rfl <;> decide
  | cons e gap =>
    obtain rfl := Option.some.inj hd
    rcases hgap e List.mem_cons_self with rfl | rfl | rfl | rfl <;> decide

theorem endsNumber_spaces (hgap : IsSpaces gap) : EndsNumber gap := by
  intro c hc
  rcases hgap c (List.mem_of_mem_head? hc) with rfl | rfl | rfl | rfl <;> decide

/-! ### First characters -/

/-- The first character of a number starts no other value, and is no space. -/
theorem facts_of_digit_or_minus {c : Char} (h : Text.isAsciiDigit c = true ∨ c = '-') :
    isSpace c = false ∧ c ≠ '\"' ∧ c ≠ '[' ∧ c ≠ ']' ∧ c ≠ '\x7b' ∧ c ≠ 'n' ∧ c ≠ 't' ∧ c ≠ 'f' := by
  have hne : ∀ e : Char, Text.isAsciiDigit e = false → e ≠ '-' → c ≠ e := by
    rintro e hdigit hminus rfl
    rcases h with h | h
    · rw [hdigit] at h
      cases h
    · exact hminus h
  refine ⟨?_, ?_, ?_, ?_, ?_, ?_, ?_, ?_⟩
  · simp only [isSpace, decide_eq_false (hne ' ' rfl (by decide)),
      decide_eq_false (hne '\n' rfl (by decide)), decide_eq_false (hne '\t' rfl (by decide)),
      decide_eq_false (hne '\r' rfl (by decide)), Bool.or_self]
  all_goals exact hne _ rfl (by decide)

/-- A value starts with a character of its own. -/
theorem Spells.exists_cons (h : Spells s value) :
    ∃ c t, s = c :: t ∧ isSpace c = false ∧ c ≠ ']' := by
  cases h with
  | number hs =>
    obtain ⟨c, t, rfl, hc⟩ := hs.exists_cons
    obtain ⟨hspace, -, -, hclose, -⟩ := facts_of_digit_or_minus hc
    exact ⟨c, t, rfl, hspace, hclose⟩
  | null | boolTrue | boolFalse | string | noItems | array | noMembers | object =>
    exact ⟨_, _, rfl, rfl, by decide⟩

theorem SpellsItems.exists_cons (h : SpellsItems s items) :
    ∃ gap c t, s = gap ++ c :: t ∧ IsSpaces gap ∧ isSpace c = false ∧ c ≠ ']' := by
  -- the first item decides, whether or not others follow
  have hfirst : ∃ u item more, s = u ++ more ∧ SpellsPadded u item := by
    cases h with
    | last hs => exact ⟨s, _, [], (List.append_nil s).symm, hs⟩
    | more hs => exact ⟨_, _, _, rfl, hs⟩
  obtain ⟨_, item, more, rfl, ⟨hbefore, hs, hafter⟩⟩ := hfirst
  obtain ⟨c, t, rfl, hspace, hclose⟩ := hs.exists_cons
  rw [List.append_assoc, List.append_assoc, List.cons_append]
  exact ⟨_, c, _, rfl, hbefore, hspace, hclose⟩

theorem SpellsMembers.exists_quote (h : SpellsMembers s members) :
    ∃ gap t, s = gap ++ '\"' :: t ∧ IsSpaces gap := by
  have hfirst : ∃ u name more, s = u ++ more ∧ SpellsName u name := by
    cases h with
    | last hname => exact ⟨_, _, _, rfl, hname⟩
    | more hname => exact ⟨_, _, _, rfl, hname⟩
  obtain ⟨_, name, more, rfl, ⟨hbefore⟩⟩ := hfirst
  rw [List.append_assoc, List.cons_append]
  exact ⟨_, _, rfl, hbefore⟩

/-! ### One step of the reader -/

/-- A number is read as the literal it is. -/
theorem readValue?_number (hs : IsNumber s) (hrest : EndsNumber rest) :
    readValue? (bound + 1) (s ++ rest) = some (.number (String.ofList s), rest) := by
  have hread := readNumber?_number hs hrest
  obtain ⟨c, more, rfl, hc⟩ := hs.exists_cons
  obtain ⟨hspace, hquote, hopen, -, hbrace, hn, ht, hf⟩ := facts_of_digit_or_minus hc
  rw [List.cons_append] at hread ⊢
  have hnull : Text.after? "null".toList (c :: (more ++ rest)) = none := if_neg (Ne.symm hn)
  have htrue : Text.after? "true".toList (c :: (more ++ rest)) = none := if_neg (Ne.symm ht)
  have hfalse : Text.after? "false".toList (c :: (more ++ rest)) = none := if_neg (Ne.symm hf)
  rw [readValue?, skipSpace_cons hspace]
  -- the branches for the other kinds of value ask for a first character that a number does not have
  split
  · next heq => exact absurd (List.cons_eq_cons.1 heq).1 hquote
  · next heq => exact absurd (List.cons_eq_cons.1 heq).1 hopen
  · next heq => exact absurd (List.cons_eq_cons.1 heq).1 hbrace
  · next heq =>
    obtain ⟨rfl, rfl⟩ := List.cons_eq_cons.1 heq
    rw [hnull, htrue, hfalse, hread]
    rfl
  · next heq => cases heq

/-- A string in its quotes is read as its text. -/
theorem readValue?_string {text : Option String} (hs : SpellsString s text) (rest : List Char) :
    readValue? (bound + 1) ('\"' :: (s ++ '\"' :: rest)) = some (.string text, rest) := by
  rw [readValue?, skipSpace_cons rfl]
  simp only [readString?_spells hs, Option.map_some]

/-- An array whose items are read is read as an array of them. -/
theorem readValue?_array (hs : SpellsItems s items)
    (hread : readItems? bound (s ++ ']' :: rest) = some (items, rest)) :
    readValue? (bound + 1) ('[' :: (s ++ ']' :: rest)) = some (.array items, rest) := by
  obtain ⟨gap, c, t, rfl, hgap, hspace, hclose⟩ := hs.exists_cons
  have hskip : skipSpace (gap ++ c :: t ++ ']' :: rest) = c :: (t ++ ']' :: rest) := by
    rw [List.append_assoc, List.cons_append, skipSpace_append_cons hgap hspace]
  rw [readValue?, skipSpace_cons rfl]
  simp only [hskip, hread]
  split
  · next heq => exact absurd (List.cons_eq_cons.1 heq).1 hclose
  · rfl

/-- An object whose members are read is read as an object of them. -/
theorem readValue?_object (hs : SpellsMembers s members)
    (hread : readMembers? bound (s ++ '\x7d' :: rest) = some (members, rest)) :
    readValue? (bound + 1) ('\x7b' :: (s ++ '\x7d' :: rest)) = some (.object members, rest) := by
  obtain ⟨gap, t, rfl, hgap⟩ := hs.exists_quote
  have hskip : skipSpace (gap ++ '\"' :: t ++ '\x7d' :: rest) = '\"' :: (t ++ '\x7d' :: rest) := by
    rw [List.append_assoc, List.cons_append, skipSpace_append_cons hgap rfl]
  rw [readValue?, skipSpace_cons rfl]
  simp only [hskip, hread]
  rfl

/-- The last item stands in front of the closing bracket. -/
theorem readItems?_last {item : Json} (hgap : IsSpaces gap)
    (hread : readValue? bound s = some (item, gap ++ ']' :: rest)) :
    readItems? (bound + 1) s = some ([item], rest) := by
  rw [readItems?, hread]
  simp only [skipSpace_append_cons hgap (show isSpace ']' = false from rfl)]

/-- Any other item stands in front of a comma. -/
theorem readItems?_more {item : Json} (hgap : IsSpaces gap)
    (hread : readValue? bound s = some (item, gap ++ ',' :: t))
    (hmore : readItems? bound t = some (items, rest)) :
    readItems? (bound + 1) s = some (item :: items, rest) := by
  rw [readItems?, hread]
  simp only [skipSpace_append_cons hgap (show isSpace ',' = false from rfl), hmore, Option.map_some]

/-- The last member stands in front of the closing brace. -/
theorem readMembers?_last (hname : SpellsName s name) (hgap : IsSpaces gap)
    (hread : readValue? bound t = some (value, gap ++ '\x7d' :: rest)) :
    readMembers? (bound + 1) (s ++ ':' :: t) = some ([(name, value)], rest) := by
  obtain ⟨hbefore, hs, hafter⟩ := hname
  rw [List.append_assoc, List.cons_append, List.append_assoc, readMembers?,
    skipSpace_append_cons hbefore rfl]
  simp only [List.cons_append, readString?_spells hs,
    skipSpace_append_cons hafter (show isSpace ':' = false from rfl), hread,
    skipSpace_append_cons hgap (show isSpace '\x7d' = false from rfl)]

/-- Any other member stands in front of a comma. -/
theorem readMembers?_more {more : List Char} (hname : SpellsName s name) (hgap : IsSpaces gap)
    (hread : readValue? bound t = some (value, gap ++ ',' :: more))
    (hmore : readMembers? bound more = some (members, rest)) :
    readMembers? (bound + 1) (s ++ ':' :: t) = some ((name, value) :: members, rest) := by
  obtain ⟨hbefore, hs, hafter⟩ := hname
  rw [List.append_assoc, List.cons_append, List.append_assoc, readMembers?,
    skipSpace_append_cons hbefore rfl]
  simp only [List.cons_append, readString?_spells hs,
    skipSpace_append_cons hafter (show isSpace ':' = false from rfl), hread,
    skipSpace_append_cons hgap (show isSpace ',' = false from rfl), hmore, Option.map_some]

/-! ### The reader on spelled texts -/

-- The recursion follows the derivations.  A bound of the length of what is spelled is enough for a value,
-- which starts with a character of its own, and one more is enough for items or members.
mutual

/-- A spelled value is read as what it spells, and what follows it is left. -/
theorem readValue?_spells : ∀ {s : List Char} {value : Json} {bound : Nat} {rest : List Char},
    Spells s value → EndsNumber rest → s.length ≤ bound →
    readValue? bound (s ++ rest) = some (value, rest)
  -- no text of a value is empty
  | s, value, 0, rest, hs, _, hbound => by
    obtain ⟨c, t, rfl, -⟩ := hs.exists_cons
    cases hbound
  | _, _, bound + 1, rest, .null, _, _ => rfl
  | _, _, bound + 1, rest, .boolTrue, _, _ => rfl
  | _, _, bound + 1, rest, .boolFalse, _, _ => rfl
  | _, _, bound + 1, rest, .number hs, hrest, _ => readValue?_number hs hrest
  | _, _, bound + 1, rest, .string hs, _, _ => by
    rw [List.cons_append, List.append_assoc]
    exact readValue?_string hs rest
  | _, _, bound + 1, rest, .noItems hgap, _, _ => by
    rw [List.cons_append, List.append_assoc, readValue?, skipSpace_cons rfl]
    simp only [List.singleton_append, skipSpace_append_cons hgap (show isSpace ']' = false from rfl)]
  | _, _, bound + 1, rest, .array hs, _, hbound => by
    rw [List.length_cons, List.length_append, List.length_singleton] at hbound
    rw [List.cons_append, List.append_assoc]
    exact readValue?_array hs (readItems?_spells hs (by omega))
  | _, _, bound + 1, rest, .noMembers hgap, _, _ => by
    rw [List.cons_append, List.append_assoc, readValue?, skipSpace_cons rfl]
    simp only [List.singleton_append,
      skipSpace_append_cons hgap (show isSpace '\x7d' = false from rfl)]
  | _, _, bound + 1, rest, .object hs, _, hbound => by
    rw [List.length_cons, List.length_append, List.length_singleton] at hbound
    rw [List.cons_append, List.append_assoc]
    exact readValue?_object hs (readMembers?_spells hs (by omega))

/-- A value with blanks around it is read up to those behind it. -/
theorem readValue?_padded : ∀ {s : List Char} {value : Json} {c : Char} (bound : Nat)
    (rest : List Char), SpellsPadded s value → c = ',' ∨ c = ']' ∨ c = '\x7d' → s.length ≤ bound →
    ∃ gap, IsSpaces gap ∧ readValue? bound (s ++ c :: rest) = some (value, gap ++ c :: rest)
  | _, value, c, bound, rest, .intro (s := s) hbefore hs hafter, hc, hbound => by
    rw [List.length_append, List.length_append] at hbound
    refine ⟨_, hafter, ?_⟩
    rw [List.append_assoc, List.append_assoc, readValue?_append hbefore]
    exact readValue?_spells hs (endsNumber_append hafter hc rest) (by omega)

/-- Spelled items are read up to the closing bracket. -/
theorem readItems?_spells : ∀ {s : List Char} {items : List Json} {bound : Nat} {rest : List Char},
    SpellsItems s items → s.length < bound → readItems? bound (s ++ ']' :: rest) = some (items, rest)
  | _, _, 0, rest, _, hbound => absurd hbound (Nat.not_lt_zero _)
  | _, _, bound + 1, rest, .last hs, hbound => by
    obtain ⟨gap, hgap, hread⟩ := readValue?_padded bound rest hs (.inr (.inl rfl)) (by omega)
    exact readItems?_last hgap hread
  | _, _, bound + 1, rest, .more hs ht, hbound => by
    rw [List.length_append, List.length_cons] at hbound
    rw [List.append_assoc, List.cons_append]
    obtain ⟨gap, hgap, hread⟩ := readValue?_padded bound _ hs (.inl rfl) (by omega)
    exact readItems?_more hgap hread (readItems?_spells ht (by omega))

/-- Spelled members are read up to the closing brace. -/
theorem readMembers?_spells : ∀ {s : List Char} {members : List (Option String × Json)} {bound : Nat}
    {rest : List Char}, SpellsMembers s members → s.length < bound →
    readMembers? bound (s ++ '\x7d' :: rest) = some (members, rest)
  | _, _, 0, rest, _, hbound => absurd hbound (Nat.not_lt_zero _)
  | _, _, bound + 1, rest, .last hname ht, hbound => by
    rw [List.length_append, List.length_cons] at hbound
    rw [List.append_assoc, List.cons_append]
    obtain ⟨gap, hgap, hread⟩ := readValue?_padded bound rest ht (.inr (.inr rfl)) (by omega)
    exact readMembers?_last hname hgap hread
  | _, _, bound + 1, rest, .more hname ht hmore, hbound => by
    rw [List.length_append, List.length_cons, List.length_append, List.length_cons] at hbound
    rw [List.append_assoc, List.cons_append, List.append_assoc, List.cons_append]
    obtain ⟨gap, hgap, hread⟩ := readValue?_padded bound _ ht (.inl rfl) (by omega)
    exact readMembers?_more hname hgap hread (readMembers?_spells hmore (by omega))

end

/-- A text of the standard denotes what it spells. -/
theorem parse?_of_spells (h : SpellsPadded s value) : parse? s = some value := by
  obtain ⟨hbefore, hs, hafter⟩ := h
  rw [parse?, readValue?_append hbefore,
    readValue?_spells hs (endsNumber_spaces hafter) (by simp only [List.length_append]; omega)]
  have hrest : skipSpace _ = [] := List.dropWhile_eq_nil_iff.2 hafter.isSpace
  exact if_pos hrest

/-- A text spells one value at most. -/
theorem SpellsPadded.unique {other : Json} (h : SpellsPadded s value) (hother : SpellsPadded s other) :
    value = other :=
  Option.some.inj ((parse?_of_spells h).symm.trans (parse?_of_spells hother))

end QualityGate.Json
