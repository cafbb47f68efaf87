/-
The list of outdated packages: reading it, and looking packages up in it.

A package is found under its lower-cased name, and of several packages with one such name the last one
is found (`IsLastNamed`).  Their order does not matter if all lower-cased names differ
(`find?_eq_of_perm`).

The list is read from every JSON text that spells an array of objects for the packages, however it is
laid out and escaped, whatever the order of the three members and whatever others stand between them
(`IsObjectOf`).  A text of another value is refused, and so is an array with an object in which a member
is missing or is no string (`IsIncomplete`).
-/
import QualityGate.Proofs.Json.Grammar
import QualityGate.Tooling.Requirement

namespace QualityGate

theorem Json.string?_eq_none_iff {value : Json} :
    value.string? = none ↔ ∀ text, value ≠ .ofString text := by
  rcases value with - | - | - | (- | text) | - | - <;> simp [string?, ofString]

namespace OutdatedPackage

open Json

variable {packages others : List OutdatedPackage} {p : OutdatedPackage} {key name : String}

/-! ### Looking up -/

/-- The lower-cased names of packages. -/
def keys (packages : List OutdatedPackage) : List String :=
  packages.map fun p => Text.lowered p.name

/-- The package is the last one of its lower-cased name. -/
def IsLastNamed (packages : List OutdatedPackage) (key : String) (p : OutdatedPackage) : Prop :=
  ∃ before after, packages = before ++ p :: after ∧ Text.lowered p.name = key ∧
    ∀ q ∈ after, Text.lowered q.name ≠ key

/-- The package that is found is the last one by the key. -/
theorem find?_eq_some_iff : find? packages key = some p ↔ IsLastNamed packages key p := by
  rw [find?, List.find?_eq_some_iff_append]
  -- the search runs over the reversed packages
  constructor
  · rintro ⟨hkey, before, after, hreverse, hbefore⟩
    refine ⟨after.reverse, before.reverse, ?_, of_decide_eq_true hkey, fun q hq => ?_⟩
    · rw [← packages.reverse_reverse, hreverse]
      simp
    · simpa using hbefore q (List.mem_reverse.1 hq)
  · rintro ⟨before, after, rfl, hkey, hafter⟩
    refine ⟨decide_eq_true hkey, after.reverse, before.reverse, by simp, fun q hq => ?_⟩
    simpa using hafter q (List.mem_reverse.1 hq)

/-- None is found if and only if none has the key. -/
theorem find?_eq_none_iff : find? packages key = none ↔ key ∉ keys packages := by
  rw [find?, List.find?_eq_none, keys, List.mem_map]
  simp

/-- Among the packages by a key one is the last. -/
theorem exists_isLastNamed (h : key ∈ keys packages) : ∃ p, IsLastNamed packages key p := by
  rcases hfind : find? packages key with - | p
  · exact absurd h (find?_eq_none_iff.1 hfind)
  · exact ⟨p, find?_eq_some_iff.1 hfind⟩

theorem IsLastNamed.mem (h : IsLastNamed packages key p) : p ∈ packages := by
  obtain ⟨before, after, rfl, -⟩ := h
  exact List.mem_append_right _ List.mem_cons_self

theorem IsLastNamed.lowered_eq (h : IsLastNamed packages key p) : Text.lowered p.name = key := by
  obtain ⟨before, after, -, hkey, -⟩ := h
  exact hkey

theorem IsLastNamed.mem_keys (h : IsLastNamed packages key p) : key ∈ keys packages :=
  List.mem_map.2 ⟨p, h.mem, h.lowered_eq⟩

/-- If all lower-cased names differ, then whoever has a name is the last one of that name. -/
theorem isLastNamed_iff_mem (hnodup : (keys packages).Nodup) :
    IsLastNamed packages key p ↔ p ∈ packages ∧ Text.lowered p.name = key := by
  constructor
  · exact fun h => ⟨h.mem, h.lowered_eq⟩
  · rintro ⟨hmem, hkey⟩
    obtain ⟨before, after, rfl⟩ := List.append_of_mem hmem
    refine ⟨before, after, rfl, hkey, fun q hq hsame => ?_⟩
    -- no package behind it has the key again
    rw [keys, List.map_append, List.map_cons] at hnodup
    have hfresh := (List.nodup_cons.1 (List.nodup_append.1 hnodup).2.1).1
    exact hfresh (List.mem_map.2 ⟨q, hq, hsame.trans hkey.symm⟩)

/-- The order of packages does not matter if all lower-cased names differ. -/
theorem find?_eq_of_perm (h : packages.Perm others) (hnodup : (keys packages).Nodup) :
    find? others key = find? packages key := by
  have hothers : (keys others).Nodup := (h.map _).nodup hnodup
  ext p
  rw [find?_eq_some_iff, find?_eq_some_iff, isLastNamed_iff_mem hnodup, isLastNamed_iff_mem hothers,
    h.mem_iff]

/-! ### The table -/

theorem nodup_eraseDups : ∀ keys : List String, keys.eraseDups.Nodup
  | [] => List.nodup_nil
  | key :: keys => by
    rw [List.eraseDups_cons, List.nodup_cons, List.mem_eraseDups]
    exact ⟨by simp, nodup_eraseDups _⟩
  termination_by keys => keys.length
  decreasing_by exact Nat.lt_succ_of_le (List.length_filter_le _ _)

/-- The table pairs each key with the last package by it. -/
theorem mem_table_iff : (key, p) ∈ table packages ↔ IsLastNamed packages key p := by
  rw [table, List.mem_filterMap]
  constructor
  · rintro ⟨other, -, hfind⟩
    obtain ⟨q, hq, heq⟩ := Option.map_eq_some_iff.1 hfind
    cases heq
    exact find?_eq_some_iff.1 hq
  · intro h
    exact ⟨key, List.mem_eraseDups.2 h.mem_keys, by rw [find?_eq_some_iff.2 h, Option.map_some]⟩

/-- The table has each lower-cased name once. -/
theorem map_fst_table : (table packages).map Prod.fst = (keys packages).eraseDups := by
  have hsome : ∀ key ∈ (keys packages).eraseDups,
      ((find? packages key).map fun p => (key, p)).map Prod.fst = some key := by
    intro key hkey
    obtain ⟨p, hp⟩ := exists_isLastNamed (List.mem_eraseDups.1 hkey)
    rw [find?_eq_some_iff.2 hp, Option.map_some, Option.map_some]
  rw [table, List.map_filterMap]
  exact (List.filterMap_congr hsome).trans List.filterMap_some

/-! ### Objects of packages -/

/-- The value is an object with the three members of the package, in any order; members of other names
may stand between them. -/
def IsObjectOf (p : OutdatedPackage) (value : Json) : Prop :=
  ∃ members : List (String × Json), value = .ofMembers members ∧
    (members.filter fun m => m.1 ∈ fieldNames).Perm
      [("name", .ofString p.name), ("version", .ofString p.version),
        ("latest_version", .ofString p.latest)]

/-- The value is an object in which one of the three members is missing or is no string. -/
def IsIncomplete (value : Json) : Prop :=
  ∃ members, value = .object members ∧ ∃ name ∈ fieldNames,
    (∀ m ∈ members, m.1 ≠ some name) ∨
      ∃ m ∈ members, m.1 = some name ∧ ∀ text, m.2 ≠ .ofString text

/-- A field's member stands alone under its name if it does so among the members of all fields. -/
theorem filter_eq_singleton (name : String) {members fields : List (String × Json)} {value : Json}
    (hperm : (members.filter fun m => m.1 ∈ fieldNames).Perm fields) (hname : name ∈ fieldNames)
    (hfields : (fields.filter fun m => m.1 = name) = [(name, value)]) :
    (members.filter fun m => m.1 = name) = [(name, value)] := by
  have hfilter := hperm.filter fun m => m.1 = name
  -- the name is one of the fields, so selecting it needs no selection of fields before
  have hsame : ∀ m : String × Json,
      (decide (m.1 = name) && decide (m.1 ∈ fieldNames)) = decide (m.1 = name) := by
    rintro ⟨other, -⟩
    rw [Bool.and_eq_left_iff_imp, decide_eq_true_iff, decide_eq_true_iff]
    rintro rfl
    exact hname
  rw [hfields, List.perm_singleton, List.filter_filter] at hfilter
  simpa only [hsame] using hfilter

/-- A field that stands once among the members, with a text, is read. -/
theorem field?_of_filter {members : List (String × Json)} {text : String}
    (h : (members.filter fun m => m.1 = name) = [(name, .ofString text)]) :
    field? (members.map fun m => (some m.1, m.2)) name = some text := by
  have hfilter : ((members.map fun m => (some m.1, m.2)).filter fun m => m.1 = some name) =
      [(some name, .ofString text)] := by
    rw [List.filter_map]
    simp only [Function.comp_def, Option.some.injEq, h, List.map_cons, List.map_nil]
  rw [field?, hfilter]
  rfl

/-- An object of a package is read as the package. -/
theorem ofJson?_of_isObjectOf {value : Json} (h : IsObjectOf p value) : ofJson? value = some p := by
  obtain ⟨members, rfl, hperm⟩ := h
  have hname := field?_of_filter (filter_eq_singleton "name" hperm (by decide) rfl)
  have hversion := field?_of_filter (filter_eq_singleton "version" hperm (by decide) rfl)
  have hlatest := field?_of_filter (filter_eq_singleton "latest_version" hperm (by decide) rfl)
  have hnamed : ((members.map fun m => (some m.1, m.2)).all fun m => m.1.isSome) = true := by
    simp
  rw [Json.ofMembers, ofJson?, if_pos hnamed, hname, hversion, hlatest]
  rfl

theorem field?_eq_none_of_forall_ne {members : List (Option String × Json)}
    (h : ∀ m ∈ members, m.1 ≠ some name) : field? members name = none := by
  have hfilter : (members.filter fun m => m.1 = some name) = [] := by
    simpa using h
  rw [field?, hfilter]

/-- A field with something other than a text is not read, whatever stands beside it. -/
theorem field?_eq_none_of_mem {members : List (Option String × Json)} {m : Option String × Json}
    (hmem : m ∈ members) (hname : m.1 = some name) (hvalue : ∀ text, m.2 ≠ .ofString text) :
    field? members name = none := by
  have hmem' : m ∈ members.filter fun m => m.1 = some name := by
    simpa [hname] using hmem
  rw [field?]
  split
  · next single hfilter =>
    rw [hfilter, List.mem_singleton] at hmem'
    rw [← hmem', Json.string?_eq_none_iff]
    exact hvalue
  · rfl

/-- An incomplete object is not read. -/
theorem ofJson?_of_isIncomplete {value : Json} (h : IsIncomplete value) : ofJson? value = none := by
  obtain ⟨members, rfl, name, hname, hbroken⟩ := h
  have hfield : field? members name = none := by
    rcases hbroken with hmissing | ⟨m, hmem, hm, hvalue⟩
    · exact field?_eq_none_of_forall_ne hmissing
    · exact field?_eq_none_of_mem hmem hm hvalue
  rw [ofJson?]
  split
  · simp only [fieldNames, List.mem_cons, List.not_mem_nil, or_false] at hname
    rcases hname with rfl | rfl | rfl <;> simp [hfield]
  · rfl

/-! ### Reading -/

variable {text : String} {value : Json} {values : List Json}

/-- A listing is read through the value that its text spells. -/
theorem parse?_of_spells (h : SpellsPadded text.toList value) :
    parse? text = match value with
      | .array items => items.mapM ofJson?
      | _ => none := by
  rw [parse?, Json.parse?_of_spells h]
  cases value <;> rfl

theorem mapM_ofJson?_of_isObjectOf (h : List.Forall₂ IsObjectOf packages values) :
    values.mapM ofJson? = some packages := by
  induction h with
  | nil => rfl
  | cons hvalue _ ih => rw [List.mapM_cons, ofJson?_of_isObjectOf hvalue, ih]; rfl

/-- One incomplete object spoils the listing. -/
theorem mapM_ofJson?_of_isIncomplete (hvalue : IsIncomplete value) (h : value ∈ values) :
    values.mapM ofJson? = none := by
  induction values with
  | nil => cases h
  | cons other values ih =>
    rw [List.mapM_cons]
    rcases List.mem_cons.1 h with rfl | h
    · rw [ofJson?_of_isIncomplete hvalue]
      rfl
    · rw [ih h]
      cases ofJson? other <;> rfl

/-- The list is read from every JSON text of an array of objects for the packages, and the table then
has each lower-cased name once, with the package that is the last one of that name.  A text of another
value is refused, and so is an array in which an object is incomplete. -/
theorem reads_spelled_listings (hspells : SpellsPadded text.toList value) :
    (∀ values packages, value = .array values → List.Forall₂ IsObjectOf packages values →
      parse? text = some packages ∧ ((table packages).map Prod.fst).Nodup ∧
        (∀ key, key ∈ (table packages).map Prod.fst ↔ key ∈ keys packages) ∧
          ∀ key p, (key, p) ∈ table packages ↔ IsLastNamed packages key p) ∧
    ((∀ values, value ≠ .array values) → parse? text = none) ∧
    ∀ values item, value = .array values → item ∈ values → IsIncomplete item →
      parse? text = none := by
  have hparse := parse?_of_spells hspells
  refine ⟨?_, fun hother => ?_, ?_⟩
  · rintro values packages rfl hvalues
    refine ⟨hparse.trans (mapM_ofJson?_of_isObjectOf hvalues), ?_, fun key => ?_,
      fun _ _ => mem_table_iff⟩
    · rw [map_fst_table]
      exact nodup_eraseDups _
    · rw [map_fst_table, List.mem_eraseDups]
  · rw [hparse]
    cases value with
    | array values => exact absurd rfl (hother values)
    | _ => rfl
  · rintro values item rfl hitem hincomplete
    exact hparse.trans (mapM_ofJson?_of_isIncomplete hincomplete hitem)

/-- Two packages whose names differ in case only.  The first object has its members out of order, one of
another name between them, and an escape in the package's name. -/
def escapedListing : String :=
  "[\x7b\"version\":\"1\",\"extra\":[],\"name\":\"\\u0041\",\"latest_version\":\"2\"\x7d, " ++
    "\x7b\"name\":\"a\",\"version\":\"3\",\"latest_version\":\"4\"\x7d]"

/-- The table has the second package of that listing.  An empty object is no listing. -/
theorem reads_escaped_listing :
    parse? escapedListing = some [⟨"A", "1", "2"⟩, ⟨"a", "3", "4"⟩] ∧
      ("a", ⟨"a", "3", "4"⟩) ∈ table [⟨"A", "1", "2"⟩, ⟨"a", "3", "4"⟩] ∧
        parse? "\x7b\x7d" = none := by
  have hname : ∀ name : String, SpellsName (quote name.toList) (some name) :=
    fun name => .intro .nil (spellsString_escaped name) .nil
  have hstring : ∀ text : String, SpellsPadded (quote text.toList ++ []) (.ofString text) :=
    fun text => .intro .nil (.string (spellsString_escaped text)) .nil
  have hunit : SpellsUnit "\\u0041".toList (.escaped 0x41) :=
    .hex (show ('0', 0) ∈ hexDigits by decide) (show ('0', 0) ∈ hexDigits by decide)
      (show ('4', 4) ∈ hexDigits by decide) (show ('1', 1) ∈ hexDigits by decide)
  have hescaped : SpellsString "\\u0041".toList (some "A") :=
    .present (.cons hunit .nil) (.single (by decide) .nil)
  have hfirst := Spells.object (.more (hname "version") (hstring "1")
    (.more (hname "extra") (.intro .nil (.noItems .nil) .nil)
      (.more (hname "name") (.intro .nil (.string hescaped) .nil)
        (.last (hname "latest_version") (hstring "2")))))
  have hsecond := Spells.object (.more (hname "name") (hstring "a")
    (.more (hname "version") (hstring "3") (.last (hname "latest_version") (hstring "4"))))
  have hblank : IsSpaces [' '] := List.forall_mem_singleton.2 (.inl rfl)
  have hlisting := SpellsPadded.intro .nil
    (.array (.more (.intro .nil hfirst .nil) (.last (.intro hblank hsecond .nil)))) .nil
  -- the derivation spells the listing character by character
  obtain ⟨s, hs, hspells⟩ : ∃ s, s = escapedListing.toList ∧ SpellsPadded s _ :=
    ⟨_, by decide +kernel, hlisting⟩
  rw [hs] at hspells
  have hobjects : List.Forall₂ IsObjectOf [⟨"A", "1", "2"⟩, ⟨"a", "3", "4"⟩] _ :=
    .cons ⟨[("version", .ofString "1"), ("extra", .array []), ("name", .ofString "A"),
      ("latest_version", .ofString "2")], rfl, .swap _ _ _⟩
    (.cons ⟨[("name", .ofString "a"), ("version", .ofString "3"), ("latest_version", .ofString "4")],
      rfl, .refl _⟩ .nil)
  obtain ⟨hparse, -, -, htable⟩ := (reads_spelled_listings hspells).1 _ _ rfl hobjects
  have hempty : SpellsPadded "\x7b\x7d".toList (.object []) := .intro .nil (.noMembers .nil) .nil
  exact ⟨hparse, (htable _ _).2 ⟨[_], [], rfl, by decide, nofun⟩,
    (reads_spelled_listings hempty).2.1 nofun⟩

end OutdatedPackage

end QualityGate
