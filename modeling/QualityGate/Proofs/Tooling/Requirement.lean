/-
Requirement lines: the package that a line names.

The name is what the trimmed line starts with, up to the first blank or the first character that starts a
constraint, a marker or extras (`IsLongestStart`).  Comments, options and lines without such a start name
nothing (`NamesNothing`).  So a name is read whatever blanks stand before it and whatever follows the character
that ends it (`requirementName?_append`), and a lower-cased name in ASCII is read again from itself
(`names_longest_start`).

The package does not depend on the case of ASCII letters (`requirementName?_map_toLower`): none of them is a
blank, starts a comment or an option, or ends a name, and the name is taken in lower case.  So a file of
requirements names the same packages in whatever case (`requirementNames_congr`).
-/
import Mathlib.Data.Bool.AllAny
import QualityGate.Proofs.Text.Casing
import QualityGate.Proofs.Text.Cut
import QualityGate.Proofs.Text.Trim
import QualityGate.Tooling.Requirement

namespace QualityGate

open Text

variable {s t : List Char}

/-! ### Letter case -/

theorem Text.trim_map {f : Char → Char} (h : isBlank ∘ f = isBlank) (s : List Char) :
    trim (s.map f) = (trim s).map f := by
  rw [trim, trim, trimStart, trimStart, trimEnd, trimEnd, List.dropWhile_map, h, ← List.map_reverse,
    List.dropWhile_map, h, List.map_reverse]

theorem isBlank_comp_toLower : isBlank ∘ Char.toLower = isBlank :=
  funext (apply_toLower (by decide +kernel))

/-- Small or capital letters of ASCII in a line make no difference to its name. -/
theorem requirementName?_map_toLower (line : List Char) :
    requirementName? (line.map Char.toLower) = requirementName? line := by
  -- no test of a character tells a capital from its small letter
  have hmark (c : Char) : (c.toLower = '#' ∨ c.toLower = '-') ↔ (c = '#' ∨ c = '-') :=
    decide_eq_decide.1 (apply_toLower (f := fun c => decide (c = '#' ∨ c = '-')) (by decide +kernel) c)
  have hends : (fun c => !endsPackageName c) ∘ Char.toLower = fun c => !endsPackageName c :=
    funext (apply_toLower (f := fun c => !endsPackageName c) (by decide +kernel))
  rw [requirementName?, requirementName?, trim_map isBlank_comp_toLower]
  rcases trim line with - | ⟨c, rest⟩
  · rfl
  · simp only [List.map_cons, hmark]
    rw [← List.map_cons, List.takeWhile_map, hends]
    rcases (c :: rest).takeWhile fun c => !endsPackageName c with - | ⟨d, name⟩
    · rfl
    · simp only [List.map_cons]
      rw [← List.map_cons, lower_map_toLower]

/-- Texts that differ in the case of ASCII letters only name the same packages, in the same order. -/
theorem requirementNames_congr (h : s.map Char.toLower = t.map Char.toLower) :
    (lines s).filterMap requirementName? = (lines t).filterMap requirementName? := by
  have hfeed (c : Char) : c.toLower = '\n' ↔ c = '\n' :=
    decide_eq_decide.1 (apply_toLower (f := fun c => decide (c = '\n')) (by decide +kernel) c)
  have hreturn (c : Char) : c.toLower = '\r' ↔ c = '\r' :=
    decide_eq_decide.1 (apply_toLower (f := fun c => decide (c = '\r')) (by decide +kernel) c)
  have hname : requirementName? ∘ List.map Char.toLower = requirementName? :=
    funext requirementName?_map_toLower
  have hnames (s : List Char) :
      (lines (s.map Char.toLower)).filterMap requirementName? = (lines s).filterMap requirementName? := by
    rw [lines_map hfeed hreturn, List.filterMap_map, hname]
  rw [← hnames s, h, hnames t]

namespace Requirement

variable {line name other rest before start : List Char} {c : Char}

/-! ### Names, and lines without one -/

/-- The characters that start a constraint, a marker or extras. -/
def closers : List Char :=
  ['=', '<', '>', '~', '!', ';', '[']

/-- A blank, or the start of a constraint, a marker or extras. -/
def EndsName (c : Char) : Prop :=
  isBlank c = true ∨ c ∈ closers

/-- No character of the text ends a name. -/
def IsUnbroken (s : List Char) : Prop :=
  ∀ c ∈ s, ¬ EndsName c

/-- The longest unbroken start of a text. -/
structure IsLongestStart (s start : List Char) : Prop where
  isPrefix : start <+: s
  isUnbroken : IsUnbroken start
  longest : ∀ other, other <+: s → IsUnbroken other → other.length ≤ start.length

/-- A text that can stand in a line as a name: not empty, unbroken, and the start neither of a comment nor
of an option. -/
structure IsName (name : List Char) : Prop where
  ne_nil : name ≠ []
  isUnbroken : IsUnbroken name
  head?_ne : name.head? ≠ some '#' ∧ name.head? ≠ some '-'

/-- The trimmed line is empty, or it starts with a comment, with an option or with what ends a name. -/
def NamesNothing (line : List Char) : Prop :=
  trim line = [] ∨ ∃ c ∈ '#' :: '-' :: closers, (trim line).head? = some c

instance : DecidablePred EndsName := fun c =>
  inferInstanceAs (Decidable (isBlank c = true ∨ c ∈ closers))

instance : DecidablePred IsUnbroken := fun s =>
  decidable_of_iff (s.all fun c => ¬ EndsName c) List.all_iff_forall_prop

instance : DecidablePred IsName := fun name =>
  decidable_of_iff (name ≠ [] ∧ IsUnbroken name ∧ name.head? ≠ some '#' ∧ name.head? ≠ some '-')
    ⟨fun ⟨h₁, h₂, h₃⟩ => ⟨h₁, h₂, h₃⟩, fun ⟨h₁, h₂, h₃⟩ => ⟨h₁, h₂, h₃⟩⟩

instance : DecidablePred NamesNothing := fun line =>
  decidable_of_iff (trim line = [] ∨ ('#' :: '-' :: closers).any fun c => (trim line).head? = some c)
    (or_congr_right List.any_iff_exists_prop)

/-! ### The longest unbroken start -/

theorem endsPackageName_iff : endsPackageName c = true ↔ EndsName c := by
  have hclosers : "=<>~!;[".toList = closers := rfl
  rw [endsPackageName, EndsName, Bool.or_eq_true, List.contains_iff_mem, hclosers, or_comm]

theorem not_endsPackageName_iff : (!endsPackageName c) = true ↔ ¬ EndsName c := by
  rw [Bool.not_eq_true', ← endsPackageName_iff, Bool.not_eq_true]

theorem isLongestStart_takeWhile (s : List Char) :
    IsLongestStart s (s.takeWhile fun c => !endsPackageName c) where
  isPrefix := List.takeWhile_prefix _
  isUnbroken c hc :=
    not_endsPackageName_iff.1 (List.mem_takeWhile_imp (p := fun c => !endsPackageName c) hc)
  longest other hother hunbroken := by
    -- all of an unbroken start is taken, and what is taken from the rest comes behind it
    obtain ⟨rest, rfl⟩ := hother
    rw [List.takeWhile_append_of_pos fun c hc => not_endsPackageName_iff.2 (hunbroken c hc),
      List.length_append]
    exact Nat.le_add_right _ _

/-- Every text has a longest start without an end of a name. -/
theorem exists_isLongestStart (s : List Char) : ∃ start, IsLongestStart s start :=
  ⟨_, isLongestStart_takeWhile s⟩

namespace IsLongestStart

theorem unique (h : IsLongestStart s start) (h' : IsLongestStart s other) : start = other := by
  have hle := h'.longest start h.isPrefix h.isUnbroken
  have hge := h.longest other h'.isPrefix h'.isUnbroken
  have hprefix : start <+: other := List.prefix_of_prefix_length_le h.isPrefix h'.isPrefix hle
  exact hprefix.eq_of_length (Nat.le_antisymm hle hge)

theorem takeWhile_eq (h : IsLongestStart s start) :
    (s.takeWhile fun c => !endsPackageName c) = start :=
  (isLongestStart_takeWhile s).unique h

/-- It is empty if the text starts with what ends a name. -/
theorem eq_nil (h : IsLongestStart (c :: rest) start) (hc : EndsName c) : start = [] := by
  rcases start with - | ⟨d, more⟩
  · rfl
  · obtain ⟨rfl, -⟩ := List.cons_prefix_cons.1 h.isPrefix
    exact absurd hc (h.isUnbroken d List.mem_cons_self)

/-- Otherwise it has the first character. -/
theorem exists_cons (h : IsLongestStart (c :: rest) start) (hc : ¬ EndsName c) :
    ∃ more, start = c :: more := by
  have hfirst : IsUnbroken [c] := List.forall_mem_singleton.2 hc
  have hpos : 1 ≤ start.length := h.longest [c] (List.prefix_append [c] rest) hfirst
  obtain ⟨d, more, rfl⟩ := List.exists_cons_of_length_pos hpos
  obtain ⟨rfl, -⟩ := List.cons_prefix_cons.1 h.isPrefix
  exact ⟨more, rfl⟩

end IsLongestStart

/-- In front of what ends a name, an unbroken text is the longest unbroken start. -/
theorem isLongestStart_append (hname : IsUnbroken name) (hrest : ∀ c ∈ rest.head?, EndsName c) :
    IsLongestStart (name ++ rest) name := by
  have hrun := takeWhile_run (p := fun c => !endsPackageName c)
    (fun c hc => not_endsPackageName_iff.2 (hname c hc))
    fun c hc => by rw [endsPackageName_iff.2 (hrest c hc)]; rfl
  have hlongest := isLongestStart_takeWhile (name ++ rest)
  rwa [hrun.1] at hlongest

/-! ### The name of a line -/

/-- A start that is not empty is a name unless it begins a comment or an option. -/
theorem isName_cons_iff (h : IsUnbroken (c :: rest)) : IsName (c :: rest) ↔ ¬ (c = '#' ∨ c = '-') := by
  constructor
  · rintro hname (rfl | rfl)
    · exact hname.head?_ne.1 rfl
    · exact hname.head?_ne.2 rfl
  · intro hmark
    obtain ⟨hhash, hdash⟩ := not_or.1 hmark
    exact ⟨List.cons_ne_nil c rest, h, mt Option.some.inj hhash, mt Option.some.inj hdash⟩

/-- The longest unbroken start of a trimmed line is a name, unless the line names nothing. -/
theorem IsLongestStart.isName_iff (h : IsLongestStart (trim line) name) :
    IsName name ↔ ¬ NamesNothing line := by
  rcases htrim : trim line with - | ⟨c, rest⟩
  · rw [htrim] at h
    obtain rfl := List.prefix_nil.1 h.isPrefix
    exact iff_of_false (fun hname => hname.ne_nil rfl) (not_not_intro (.inl htrim))
  · have hnothing : NamesNothing line ↔ c ∈ '#' :: '-' :: closers := by
      simp [NamesNothing, htrim]
    have hblank : isBlank c = false := head?_trim (s := line) (by rw [htrim]; rfl)
    rw [htrim] at h
    rw [hnothing]
    by_cases hc : EndsName c
    · -- a trimmed line starts with no blank
      have hcloser : c ∈ closers := hc.resolve_left (Bool.eq_false_iff.1 hblank)
      obtain rfl := h.eq_nil hc
      refine iff_of_false (fun hname => hname.ne_nil rfl) (not_not_intro ?_)
      exact List.mem_cons_of_mem _ (List.mem_cons_of_mem _ hcloser)
    · obtain ⟨more, rfl⟩ := h.exists_cons hc
      have hcloser : c ∉ closers := fun hmem => hc (.inr hmem)
      rw [isName_cons_iff h.isUnbroken, List.mem_cons, List.mem_cons, or_iff_left hcloser]

/-- A line names what it starts with, if that is a name. -/
theorem requirementName?_eq (h : IsLongestStart (trim line) name) :
    requirementName? line = if IsName name then some (String.ofList (lower name)) else none := by
  have htake := h.takeWhile_eq
  simp only [requirementName?]
  rcases htrim : trim line with - | ⟨c, rest⟩
  · rw [htrim] at htake
    obtain rfl : [] = name := htake
    exact (if_neg fun hname => hname.ne_nil rfl).symm
  · rw [htrim] at h htake
    simp only [htake]
    cases name with
    | nil =>
      rw [if_neg fun hname : IsName [] => hname.ne_nil rfl]
      exact ite_self none
    | cons d more =>
      -- the mark is looked for at the start of the line, which is that of the name
      obtain ⟨rfl, -⟩ := List.cons_prefix_cons.1 h.isPrefix
      rw [if_congr (isName_cons_iff h.isUnbroken) rfl rfl, ite_not]

/-- A name is read wherever it stands between blanks and what ends it. -/
theorem requirementName?_append (hbefore : ∀ c ∈ before, isBlank c = true) (hname : IsName name)
    (hrest : ∀ c ∈ rest.head?, EndsName c) :
    requirementName? (before ++ name ++ rest) = some (String.ofList (lower name)) := by
  -- a blank would end the name, so trimming leaves the name whole
  have hblank : ∀ c ∈ name, isBlank c = false := fun c hc =>
    Bool.eq_false_iff.2 fun h => hname.isUnbroken c hc (.inl h)
  have htrim : trim (before ++ name ++ rest) = name ++ trimEnd rest :=
    trim_append hbefore (List.head?_eq_some_head hname.ne_nil) (hblank _ (List.head_mem _))
      (List.getLast?_eq_some_getLast hname.ne_nil) (hblank _ (List.getLast_mem _)) rest
  have hstart : IsLongestStart (trim (before ++ name ++ rest)) name := by
    rw [htrim]
    exact isLongestStart_append hname.isUnbroken fun c hc => hrest c (head?_trimEnd hc)
  rw [requirementName?_eq hstart, if_pos hname]

/-- The lower-cased name of a line in ASCII is read again from itself. -/
theorem requirementName?_toList {key : String} (hascii : ∀ c ∈ line, c.toNat < 0x80)
    (h : requirementName? line = some key) : requirementName? key.toList = some key := by
  obtain ⟨name, hstart⟩ := exists_isLongestStart (trim line)
  rw [requirementName?_eq hstart] at h
  split at h
  · next hname =>
    obtain rfl := Option.some.inj h
    have hpart : name ⊆ line := fun c hc => (trim_isInfix line).subset (hstart.isPrefix.subset hc)
    have hlower : lower name = name.map Char.toLower := lower_of_ascii fun c hc => hascii c (hpart hc)
    -- the name alone is a line, and the case of its letters does not matter
    have hself : requirementName? ([] ++ name ++ []) = some (String.ofList (lower name)) :=
      requirementName?_append nofun hname nofun
    rw [List.nil_append, List.append_nil] at hself
    rw [String.toList_ofList, hlower, requirementName?_map_toLower, hself, hlower]
  · cases h

/-- A line names nothing exactly if it is blank, or starts with a comment, with an option or with what ends
a name.  Every other line names the package whose name is its longest unbroken start, in lower case.  So a
name is read whatever blanks stand before it and whatever follows the character that ends it, and the name
that a line in ASCII gives is the name of itself. -/
theorem names_longest_start :
    (∀ line, requirementName? line = none ↔ NamesNothing line) ∧
    (∀ line, ¬ NamesNothing line → ∃ name, IsLongestStart (trim line) name ∧
      requirementName? line = some (String.ofList (lower name))) ∧
    (∀ before name rest, (∀ c ∈ before, isBlank c = true) → IsName name →
      (∀ c ∈ rest.head?, EndsName c) →
      requirementName? (before ++ name ++ rest) = some (String.ofList (lower name))) ∧
    ∀ line, (∀ c ∈ line, c.toNat < 0x80) → ∀ key, requirementName? line = some key →
      requirementName? key.toList = some key := by
  refine ⟨fun line => ?_, fun line hline => ?_, ?_, ?_⟩
  · obtain ⟨name, hstart⟩ := exists_isLongestStart (trim line)
    rw [requirementName?_eq hstart, ← not_iff_not, ← hstart.isName_iff]
    by_cases hname : IsName name <;> simp [hname]
  · obtain ⟨name, hstart⟩ := exists_isLongestStart (trim line)
    have hname : IsName name := hstart.isName_iff.2 hline
    exact ⟨name, hstart, by rw [requirementName?_eq hstart, if_pos hname]⟩
  · exact fun before name rest hbefore hname hrest => requirementName?_append hbefore hname hrest
  · exact fun line hascii key h => requirementName?_toList hascii h

/-- A Greek name between blanks and extras is read with its final sigma, a name in ASCII is read again from
itself, and a comment behind a blank names nothing. -/
theorem names_start_before_extras :
    let line := "\tZope.Interface>=5".toList
    ((∀ c ∈ "\u3000 ".toList, isBlank c = true) ∧ IsName "ΟΔΟΣ".toList ∧
      (∀ c ∈ "[x] ; y".toList.head?, EndsName c) ∧ ¬ NamesNothing line ∧ ∀ c ∈ line, c.toNat < 0x80) ∧
    requirementName? ("\u3000 ".toList ++ "ΟΔΟΣ".toList ++ "[x] ; y".toList) = some "οδος" ∧
    (∃ name, IsLongestStart (trim line) name ∧
      requirementName? line = some (String.ofList (lower name))) ∧
    requirementName? "zope.interface".toList = some "zope.interface" ∧
    requirementName? "\u00a0# pinned".toList = none := by
  intro line
  obtain ⟨hnone, hsome, hread, hagain⟩ := names_longest_start
  have hbefore : ∀ c ∈ "\u3000 ".toList, isBlank c = true :=
    List.all_iff_forall_prop.1 (by decide +kernel)
  have hname : IsName "ΟΔΟΣ".toList := by decide +kernel
  have hrest : ∀ c ∈ "[x] ; y".toList.head?, EndsName c := by
    rintro c ⟨⟩
    exact .inr (by decide)
  have hnames : ¬ NamesNothing line := by decide +kernel
  have hascii : ∀ c ∈ line, c.toNat < 0x80 := List.all_iff_forall_prop.1 (by decide +kernel)
  have hlower : String.ofList (lower "ΟΔΟΣ".toList) = "οδος" := by decide +kernel
  have hgreek := hread _ _ _ hbefore hname hrest
  rw [hlower] at hgreek
  exact ⟨⟨hbefore, hname, hrest, hnames, hascii⟩, hgreek, hsome line hnames,
    hagain line hascii "zope.interface" (by decide +kernel), (hnone _).2 (by decide +kernel)⟩

end Requirement

end QualityGate
