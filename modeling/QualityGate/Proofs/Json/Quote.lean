/-
Strings of JSON texts.

Between its quotes a string has characters as they are, escapes of one letter, and escapes of four
hexadecimal digits, which name 16-bit units (`SpellsUnits`).  The units denote characters if every
half of a surrogate pair stands in a pair (`Denotes`); a string of which they denote none is absent
(`SpellsString`).  The reader takes every such text for what it spells (`readString?_spells`).

What is quoted spells the text that was quoted: each character is written in a way of its own
(`spellsUnit_escapeChar`), and no unit is half of a pair.
-/
import QualityGate.Json.Printer
import QualityGate.Json.Reader

namespace QualityGate.Json

/-! ### Spelling -/

/-- The escapes of one letter, with what they stand for. -/
def shortEscapes : List (Char × Char) :=
  [('\"', '\"'), ('\\', '\\'), ('/', '/'), ('b', '\x08'), ('f', '\x0c'), ('n', '\n'), ('r', '\r'),
    ('t', '\t')]

/-- The hexadecimal digits of both cases, with their values. -/
def hexDigits : List (Char × Nat) :=
  "0123456789abcdef".toList.zipIdx ++ "ABCDEF".toList.zipIdx 10

/-- The text spells a unit: a character as it is, or an escape of one letter or of four digits. -/
inductive SpellsUnit : List Char → Unit16 → Prop
  | plain {c : Char} (hquote : c ≠ '\"') (hback : c ≠ '\\') (hcontrol : 0x20 ≤ c.toNat) :
    SpellsUnit [c] (.plain c)
  | short {e c : Char} (h : (e, c) ∈ shortEscapes) : SpellsUnit ['\\', e] (.plain c)
  | hex {c₃ c₂ c₁ c₀ : Char} {d₃ d₂ d₁ d₀ : Nat} (h₃ : (c₃, d₃) ∈ hexDigits)
    (h₂ : (c₂, d₂) ∈ hexDigits) (h₁ : (c₁, d₁) ∈ hexDigits) (h₀ : (c₀, d₀) ∈ hexDigits) :
    SpellsUnit ['\\', 'u', c₃, c₂, c₁, c₀] (.escaped (((d₃ * 16 + d₂) * 16 + d₁) * 16 + d₀))

/-- The text spells the units one after the other. -/
inductive SpellsUnits : List Char → List Unit16 → Prop
  | nil : SpellsUnits [] []
  | cons {s t : List Char} {unit : Unit16} {units : List Unit16} (hunit : SpellsUnit s unit)
    (hunits : SpellsUnits t units) : SpellsUnits (s ++ t) (unit :: units)

/-- The units denote the characters: those of a pair of halves together one, all others one each. -/
inductive Denotes : List Unit16 → List Char → Prop
  | nil : Denotes [] []
  | plain {c : Char} {units : List Unit16} {chars : List Char} (h : Denotes units chars) :
    Denotes (.plain c :: units) (c :: chars)
  | single {n : Nat} {units : List Unit16} {chars : List Char} (hn : ¬ (0xd800 ≤ n ∧ n ≤ 0xdfff))
    (h : Denotes units chars) : Denotes (.escaped n :: units) (Char.ofNat n :: chars)
  | pair {high low : Nat} {units : List Unit16} {chars : List Char}
    (hhigh : 0xd800 ≤ high ∧ high ≤ 0xdbff) (hlow : 0xdc00 ≤ low ∧ low ≤ 0xdfff)
    (h : Denotes units chars) : Denotes (.escaped high :: .escaped low :: units)
      (Char.ofNat (0x10000 + (high - 0xd800) * 0x400 + (low - 0xdc00)) :: chars)

/-- The text between two quotes spells a string, which is absent if its units denote none. -/
inductive SpellsString : List Char → Option String → Prop
  | present {s chars : List Char} {units : List Unit16} (hunits : SpellsUnits s units)
    (hchars : Denotes units chars) : SpellsString s (some (String.ofList chars))
  | absent {s : List Char} {units : List Unit16} (hunits : SpellsUnits s units)
    (hchars : ∀ chars, ¬ Denotes units chars) : SpellsString s none

variable {n : Nat} {s chars : List Char} {unit : Unit16} {units : List Unit16}
  {text : Option String}

/-! ### Reading of units -/

theorem shortEscape?_of_mem : ∀ p ∈ shortEscapes, shortEscape? p.1 = some p.2 := by
  decide

theorem hexValue?_of_mem : ∀ p ∈ hexDigits, hexValue? p.1 = some p.2 := by
  decide

/-- A unit is read as it is spelled. -/
theorem readUnits?_unit (h : SpellsUnit s unit) (rest : List Char) :
    readUnits? (s ++ rest) = (readUnits? rest).map fun r => (unit :: r.1, r.2) := by
  cases h with
  | plain hquote hback hcontrol =>
    rw [List.singleton_append, readUnits?]
    · rw [if_neg (not_or.2 ⟨Nat.not_lt.2 hcontrol, hback⟩)]
    · exact hquote
    · exact fun _ _ _ _ _ heq => absurd heq hback
    · exact fun _ _ heq => absurd heq hback
  | short h =>
    have hshort := shortEscape?_of_mem _ h
    rw [List.cons_append, List.singleton_append, readUnits?]
    · rw [hshort]
      cases readUnits? rest <;> rfl
    · -- no escape of one letter has the letter of the others
      rintro a b c d more rfl
      cases hshort
  | hex h₃ h₂ h₁ h₀ =>
    simp only [List.cons_append, List.nil_append, readUnits?, hexUnit?, hexValue?_of_mem _ h₃,
      hexValue?_of_mem _ h₂, hexValue?_of_mem _ h₁, hexValue?_of_mem _ h₀]
    cases readUnits? rest <;> rfl

/-- Units are read up to the closing quote. -/
theorem readUnits?_units (h : SpellsUnits s units) (rest : List Char) :
    readUnits? (s ++ '\"' :: rest) = some (units, rest) := by
  induction h with
  | nil => rw [List.nil_append, readUnits?]
  | cons hunit _ ih =>
    rw [List.append_assoc, readUnits?_unit hunit, ih]
    rfl

/-! ### What units denote -/

theorem isHighHalf_eq_true_iff : isHighHalf n = true ↔ 0xd800 ≤ n ∧ n ≤ 0xdbff := by
  rw [isHighHalf, Bool.and_eq_true, decide_eq_true_iff, decide_eq_true_iff]

theorem isLowHalf_eq_true_iff : isLowHalf n = true ↔ 0xdc00 ≤ n ∧ n ≤ 0xdfff := by
  rw [isLowHalf, Bool.and_eq_true, decide_eq_true_iff, decide_eq_true_iff]

/-- A unit between the two ranges of halves and outside both is half of nothing. -/
theorem isHalf_eq_false_iff :
    (isHighHalf n || isLowHalf n) = false ↔ ¬ (0xd800 ≤ n ∧ n ≤ 0xdfff) := by
  rw [← Bool.not_eq_true, Bool.or_eq_true, isHighHalf_eq_true_iff, isLowHalf_eq_true_iff]
  omega

/-- An escaped unit that is no half of a pair stands for its character. -/
theorem charsOfUnits?_single (hn : (isHighHalf n || isLowHalf n) = false) (units : List Unit16) :
    charsOfUnits? (.escaped n :: units) = (charsOfUnits? units).map (Char.ofNat n :: ·) := by
  -- the reader looks at the next unit before it asks whether this one is half of a pair
  rcases units with - | ⟨c | m, units⟩
  · simp [charsOfUnits?, hn]
  · simp only [charsOfUnits?, hn, Bool.false_eq_true, if_false, Option.map_map]
    rfl
  · obtain ⟨hhigh, hlow⟩ := Bool.or_eq_false_iff.1 hn
    simp only [charsOfUnits?, hhigh, hlow, Bool.false_eq_true, if_false]

/-- Two halves of a pair stand for one character. -/
theorem charsOfUnits?_pair {high low : Nat} (hhigh : isHighHalf high = true)
    (hlow : isLowHalf low = true) (units : List Unit16) :
    charsOfUnits? (.escaped high :: .escaped low :: units) = (charsOfUnits? units).map
      (Char.ofNat (0x10000 + (high - 0xd800) * 0x400 + (low - 0xdc00)) :: ·) := by
  have hfirst : isLowHalf high = false := by
    rw [← Bool.not_eq_true, isLowHalf_eq_true_iff]
    have := isHighHalf_eq_true_iff.1 hhigh
    omega
  simp only [charsOfUnits?, hfirst, hhigh, hlow, Bool.false_eq_true, if_false, if_true]

/-- The reader finds the characters that units denote. -/
theorem charsOfUnits?_of_denotes (h : Denotes units chars) : charsOfUnits? units = some chars := by
  induction h with
  | nil => rfl
  | plain _ ih => rw [charsOfUnits?, ih, Option.map_some]
  | single hn _ ih => rw [charsOfUnits?_single (isHalf_eq_false_iff.2 hn), ih, Option.map_some]
  | pair hhigh hlow _ ih =>
    rw [charsOfUnits?_pair (isHighHalf_eq_true_iff.2 hhigh) (isLowHalf_eq_true_iff.2 hlow), ih,
      Option.map_some]

/-- The units denote what the reader makes of them. -/
theorem denotes_of_charsOfUnits? (h : charsOfUnits? units = some chars) : Denotes units chars := by
  fun_induction charsOfUnits? units generalizing chars with
  | case1 =>
    cases h
    exact .nil
  | case2 c units ih =>
    obtain ⟨chars, hchars, rfl⟩ := Option.map_eq_some_iff.1 h
    exact .plain (ih hchars)
  | case4 n hn =>
    cases h
    exact .single (isHalf_eq_false_iff.1 (Bool.eq_false_iff.2 hn)) .nil
  | case6 n c units hn ih =>
    obtain ⟨chars, hchars, rfl⟩ := Option.map_eq_some_iff.1 h
    exact .single (isHalf_eq_false_iff.1 (Bool.eq_false_iff.2 hn)) (.plain (ih hchars))
  | case8 high low units _ hhigh hlow ih =>
    obtain ⟨chars, hchars, rfl⟩ := Option.map_eq_some_iff.1 h
    exact .pair (isHighHalf_eq_true_iff.1 hhigh) (isLowHalf_eq_true_iff.1 hlow) (ih hchars)
  | case10 n m units hlow hhigh ih =>
    obtain ⟨chars, hchars, rfl⟩ := Option.map_eq_some_iff.1 h
    have hn : (isHighHalf n || isLowHalf n) = false := by
      rw [Bool.or_eq_false_iff, Bool.eq_false_iff, Bool.eq_false_iff]
      exact ⟨hhigh, hlow⟩
    exact .single (isHalf_eq_false_iff.1 hn) (ih hchars)
  -- a half without its other half, or a tail that stands for nothing
  | case3 | case5 | case7 | case9 => cases h

/-! ### Strings -/

/-- A string is read as what it spells, up to the closing quote. -/
theorem readString?_spells (h : SpellsString s text) (rest : List Char) :
    readString? (s ++ '\"' :: rest) = some (text, rest) := by
  cases h with
  | present hunits hchars =>
    rw [readString?, readUnits?_units hunits, Option.map_some, charsOfUnits?_of_denotes hchars,
      Option.map_some]
  | @absent units hunits hchars =>
    have hnone : charsOfUnits? units = none :=
      Option.eq_none_iff_forall_ne_some.2 fun chars h => hchars chars (denotes_of_charsOfUnits? h)
    rw [readString?, readUnits?_units hunits, Option.map_some, hnone, Option.map_none]

/-! ### What is quoted -/

/-- The character is written as an escape of four hexadecimal digits. -/
def isWrittenInHex (c : Char) : Bool :=
  c.toNat < 0x20 && c ≠ '\n' && c ≠ '\r' && c ≠ '\t' && c ≠ '\x08' && c ≠ '\x0c'

/-- What the character in a string is read as. -/
def unitOf (c : Char) : Unit16 :=
  if isWrittenInHex c then .escaped c.toNat else .plain c

theorem hexDigit_mem : ∀ n < 16, (hexDigit n, n) ∈ hexDigits := by
  decide

/-- A character is written by a short escape, in hexadecimal digits, or as it is. -/
theorem spellsUnit_escapeChar (c : Char) : SpellsUnit (escapeChar c) (unitOf c) := by
  -- the characters that have a short escape come first, as they do in the printer
  by_cases hshort : c ∈ ['\"', '\\', '\n', '\r', '\t', '\x08', '\x0c']
  · simp only [List.mem_cons, List.not_mem_nil, or_false] at hshort
    rcases hshort with rfl | rfl | rfl | rfl | rfl | rfl | rfl <;> exact .short (by decide)
  · simp only [List.mem_cons, List.not_mem_nil, or_false, not_or] at hshort
    obtain ⟨hquote, hback, hline, hreturn, htab, hb, hf⟩ := hshort
    by_cases hcontrol : c.toNat < 0x20
    · have hspells : SpellsUnit
          ['\\', 'u', '0', '0', hexDigit (c.toNat / 16), hexDigit (c.toNat % 16)]
          (.escaped (((0 * 16 + 0) * 16 + c.toNat / 16) * 16 + c.toNat % 16)) :=
        .hex (by decide) (by decide) (hexDigit_mem _ (by omega)) (hexDigit_mem _ (by omega))
      have hvalue : ((0 * 16 + 0) * 16 + c.toNat / 16) * 16 + c.toNat % 16 = c.toNat := by omega
      rw [hvalue] at hspells
      simpa [escapeChar, unitOf, isWrittenInHex, hquote, hback, hline, hreturn, htab, hb, hf,
        hcontrol] using hspells
    · have hspells : SpellsUnit [c] (.plain c) := .plain hquote hback (Nat.not_lt.1 hcontrol)
      simpa [escapeChar, unitOf, isWrittenInHex, hquote, hback, hline, hreturn, htab, hb, hf,
        hcontrol] using hspells

theorem spellsUnits_flatMap_escapeChar (s : List Char) :
    SpellsUnits (s.flatMap escapeChar) (s.map unitOf) := by
  induction s with
  | nil => exact .nil
  | cons c s ih => exact .cons (spellsUnit_escapeChar c) ih

/-- A text denotes itself, unit by unit. -/
theorem denotes_map_unitOf (s : List Char) : Denotes (s.map unitOf) s := by
  induction s with
  | nil => exact .nil
  | cons c s ih =>
    rw [List.map_cons, unitOf]
    split
    · next hhex =>
      -- what is written in hex is a control character, and so no half of a pair
      have hcontrol : c.toNat < 0x20 := by
        simp only [isWrittenInHex, Bool.and_eq_true, decide_eq_true_eq] at hhex
        exact hhex.1.1.1.1.1
      have hsingle : Denotes (.escaped c.toNat :: s.map unitOf) (Char.ofNat c.toNat :: s) :=
        .single (by omega) ih
      rwa [Char.ofNat_toNat] at hsingle
    · exact .plain ih

/-- What is quoted spells the text that was quoted. -/
theorem spellsString_escaped (text : String) :
    SpellsString (text.toList.flatMap escapeChar) (some text) := by
  have hspells := SpellsString.present (spellsUnits_flatMap_escapeChar text.toList)
    (denotes_map_unitOf text.toList)
  rwa [String.ofList_toList] at hspells

end QualityGate.Json
