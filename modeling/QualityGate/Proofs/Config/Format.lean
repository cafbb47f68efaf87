/-
The format of a configuration document, apart from how it is decoded.

Each known key takes values of one form, and a form says which value means what: `IsPercentage`,
`IsCount`, `IsSwitch`, `IsText` and `IsList` relate a value of a document to a value of a field.  With
the tables `generalForms` and `pathsForms` of the known keys they say which documents are admissible
(`IsAdmissible`), what a configuration has to hold (`Describes`), and which keys are unknown
(`IsUnknown`).  The readers of the fields decide the forms (`percent?_eq_ok_iff` and its siblings).
-/
import Mathlib.Data.List.Forall2
import QualityGate.Config.Decode
import QualityGate.Proofs.Text.Cut
import QualityGate.Text.Utf8

namespace QualityGate

namespace Toml

/-- The bytes of a key; the keys of a table are ordered by them. -/
def keyBytes (key : String) : List UInt8 :=
  Text.encode key.toList

/-- A value that a document can have: an integer has 64 bits, one of them for the sign, and a table
has each key once, in the order of their bytes. -/
inductive IsWellFormed : Toml → Prop where
  | string (text : String) : IsWellFormed (.string text)
  | integer {value : Int} (hlow : -Int.pow 2 63 ≤ value) (hhigh : value < Int.pow 2 63) :
    IsWellFormed (.integer value)
  | float (value : Binary64) : IsWellFormed (.float value)
  | boolean (value : Bool) : IsWellFormed (.boolean value)
  | datetime (text : String) : IsWellFormed (.datetime text)
  | array {items : List Toml} (hitems : ∀ item ∈ items, IsWellFormed item) :
    IsWellFormed (.array items)
  | table {entries : TomlTable}
    (hkeys : entries.Pairwise fun e later => keyBytes e.1 < keyBytes later.1)
    (hvalues : ∀ e ∈ entries, IsWellFormed e.2) : IsWellFormed (.table entries)

namespace IsWellFormed

variable {entries : TomlTable} {value : Int}

theorem bounds (h : IsWellFormed (.integer value)) :
    -Int.pow 2 63 ≤ value ∧ value < Int.pow 2 63 := by
  cases h with
  | integer hlow hhigh => exact ⟨hlow, hhigh⟩

theorem keys (h : IsWellFormed (.table entries)) :
    entries.Pairwise fun e later => keyBytes e.1 < keyBytes later.1 := by
  cases h with
  | table hkeys _ => exact hkeys

theorem values (h : IsWellFormed (.table entries)) {e : String × Toml} (he : e ∈ entries) :
    e.2.IsWellFormed := by
  cases h with
  | table _ hvalues => exact hvalues e he

/-- Keys that ascend are different ones. -/
theorem nodup_keys (h : IsWellFormed (.table entries)) : (entries.map Prod.fst).Nodup := by
  rw [List.nodup_iff_pairwise_ne, List.pairwise_map]
  refine h.keys.imp fun hlt heq => ?_
  rw [heq] at hlt
  exact List.lt_irrefl _ hlt

end IsWellFormed

theorem isWellFormed_nil : IsWellFormed (.table []) :=
  .table .nil fun _ he => absurd he List.not_mem_nil

end Toml

namespace Config

/-! ### Keys of a list of entries -/

section Lookup

variable {β : Type} {entries : List (String × β)} {key : String} {b : β}

theorem lookup_eq_none_iff : entries.lookup key = none ↔ key ∉ entries.map Prod.fst := by
  rw [List.lookup_eq_none_iff, List.mem_map]
  constructor
  · rintro h ⟨e, he, rfl⟩
    exact bne_iff_ne.1 (h e he) rfl
  · intro h e he
    exact bne_iff_ne.2 fun heq => h ⟨e, he, heq.symm⟩

theorem mem_of_lookup_eq_some (h : entries.lookup key = some b) : (key, b) ∈ entries := by
  obtain ⟨front, rest, rfl, -⟩ := List.lookup_eq_some_iff.1 h
  exact List.mem_append_right front List.mem_cons_self

/-- With different keys, the entry that is found at a key is the one there. -/
theorem lookup_eq_some_iff_mem (hkeys : (entries.map Prod.fst).Nodup) :
    entries.lookup key = some b ↔ (key, b) ∈ entries := by
  refine ⟨mem_of_lookup_eq_some, fun h => ?_⟩
  obtain ⟨front, rest, rfl⟩ := List.append_of_mem h
  refine List.lookup_eq_some_iff.2 ⟨front, rest, rfl, fun e he => bne_iff_ne.2 ?_⟩
  rintro rfl
  -- the key would be there twice
  rw [List.map_append, List.nodup_append] at hkeys
  exact hkeys.2.2 e.1 (List.mem_map_of_mem he) e.1 List.mem_cons_self rfl

/-- So the order of entries does not matter. -/
theorem lookup_eq_of_perm {others : List (String × β)} (h : entries.Perm others)
    (hkeys : (entries.map Prod.fst).Nodup) (key : String) : entries.lookup key = others.lookup key := by
  have hkeys' : (others.map Prod.fst).Nodup := (h.map Prod.fst).nodup_iff.1 hkeys
  apply Option.ext
  intro b
  rw [lookup_eq_some_iff_mem hkeys, lookup_eq_some_iff_mem hkeys', h.mem_iff]

end Lookup

/-! ### Forms of values -/

/-- A value that means a percentage. -/
def IsPercentage (v : Toml) (n : Nat) : Prop :=
  v = .integer n ∧ n ≤ Nat.pow 2 32 - 1

/-- A value that means a number of lines. -/
def IsCount (v : Toml) (n : Nat) : Prop :=
  v = .integer n

/-- A value that means a switch. -/
def IsSwitch (v : Toml) (on : Bool) : Prop :=
  v = .boolean on

/-- A value that means a text. -/
def IsText (v : Toml) (text : String) : Prop :=
  v = .string text ∨ v = .datetime text

/-- The pieces have commas between them in the text, and none of their own. -/
def ArePieces (pieces : List String) (text : String) : Prop :=
  pieces ≠ [] ∧ (∀ piece ∈ pieces, ',' ∉ piece.toList) ∧
    text.toList = Text.joinWith [','] (pieces.map String.toList)

/-- A value that means a list: the pieces of a text or the texts of an array, trimmed and without the
empty ones. -/
def IsList (v : Toml) (items : List String) : Prop :=
  ∃ pieces, items = (pieces.map Text.trimmed).filter (· ≠ "") ∧
    ((∃ text, IsText v text ∧ ArePieces pieces text) ∨
      ∃ values, v = .array values ∧ List.Forall₂ IsText values pieces)

/-! ### Known keys -/

/-- The known keys of a section and the values that each may have. -/
abbrev Forms := List (String × (Toml → Prop))

/-- The known keys of thresholds and switches. -/
def generalForms : Forms :=
  [("min_test_coverage", fun v => ∃ n, IsPercentage v n),
    ("max_file_length", fun v => ∃ n, IsCount v n),
    ("max_function_length", fun v => ∃ n, IsCount v n),
    ("check_bandit", fun v => ∃ on, IsSwitch v on),
    ("check_mypy", fun v => ∃ on, IsSwitch v on),
    ("check_ruff", fun v => ∃ on, IsSwitch v on),
    ("main_branch", fun v => ∃ text, IsText v text),
    ("enable_auto_commit", fun v => ∃ on, IsSwitch v on)]

/-- The known keys of the source layout. -/
def pathsForms : Forms :=
  [("src_dirs", fun v => ∃ items, IsList v items),
    ("test_dir", fun v => ∃ text, IsText v text),
    ("exclude_dirs", fun v => ∃ items, IsList v items)]

/-- The known keys of a document. -/
def sections : List (String × Forms) :=
  [("general", generalForms), ("paths", pathsForms)]

/-- The sections of a document are tables where they are there at all. -/
def HasTables (document : TomlTable) : Prop :=
  ∀ e ∈ document, ∀ forms, sections.lookup e.1 = some forms → ∃ entries, e.2 = .table entries

/-- Every known key of a section that is there has an admissible value. -/
def AreAdmissible (forms : Forms) (entries : TomlTable) : Prop :=
  ∀ e ∈ entries, ∀ admits, forms.lookup e.1 = some admits → admits e.2

/-- Every known key that is there has an admissible value. -/
def IsAdmissible (document : TomlTable) : Prop :=
  ∀ e ∈ document, ∀ forms, sections.lookup e.1 = some forms →
    ∀ entries, e.2 = .table entries → AreAdmissible forms entries

/-- A key that names nothing, behind the section that it stands in. -/
inductive IsUnknown (document : TomlTable) : List String → Prop where
  | outside {key : String} {v : Toml} (hkey : (key, v) ∈ document)
    (hunknown : sections.lookup key = none) : IsUnknown document [key]
  | inside {name key : String} {forms : Forms} {entries : TomlTable} {v : Toml}
    (hname : sections.lookup name = some forms) (hsection : (name, .table entries) ∈ document)
    (hkey : (key, v) ∈ entries) (hunknown : forms.lookup key = none) : IsUnknown document [name, key]

/-- The value without the keys of a table that no form is for. -/
def pruned (forms : Forms) : Toml → Toml
  | .table entries => .table (entries.filter fun e => (forms.lookup e.1).isSome)
  | v => v

/-- The document without the keys that name nothing. -/
def withoutUnknown (document : TomlTable) : TomlTable :=
  document.filterMap fun e => (sections.lookup e.1).map fun forms => (e.1, pruned forms e.2)

/-! ### What a document describes -/

variable {α : Type} {entries : TomlTable}

/-- What is held for a key: what its value means where it is there, and the default elsewhere. -/
def Holds (entries : TomlTable) (key : String) (Means : Toml → α → Prop) (standard held : α) : Prop :=
  match entries.lookup key with
  | some v => Means v held
  | none => held = standard

/-- No value has two meanings. -/
def MeansOneThing (Means : Toml → α → Prop) : Prop :=
  ∀ v a b, Means v a → Means v b → a = b

section Holds

variable {key : String} {Means : Toml → α → Prop} {standard held : α} {e : String × Toml}

theorem holds_cons_of_eq (h : e.1 = key) :
    Holds (e :: entries) key Means standard held ↔ Means e.2 held := by
  rw [Holds, ← h, List.lookup_cons_self]

theorem holds_cons_of_ne (h : e.1 ≠ key) :
    Holds (e :: entries) key Means standard held ↔ Holds entries key Means standard held := by
  rw [Holds, List.lookup_cons, beq_false_of_ne h.symm, Holds]

/-- Without an entry at its key, a field has its default. -/
theorem holds_of_notMem (h : key ∉ entries.map Prod.fst) :
    Holds entries key Means standard held ↔ held = standard := by
  rw [Holds, lookup_eq_none_iff.2 h]

theorem Holds.imp {Reads : Toml → α → Prop} (h : ∀ {v a}, Reads v a → Means v a)
    (hreads : Holds entries key Reads standard held) : Holds entries key Means standard held := by
  rw [Holds] at hreads ⊢
  revert hreads
  rcases entries.lookup key with - | v
  · exact id
  · exact h

/-- Entries that have the same value for a key hold the same for it. -/
theorem Holds.eq {others : TomlTable} {held' : α} (hlookup : others.lookup key = entries.lookup key)
    (hunique : MeansOneThing Means) (h : Holds entries key Means standard held)
    (h' : Holds others key Means standard held') :
    held' = held := by
  rw [Holds] at h h'
  rw [hlookup] at h'
  revert h h'
  rcases entries.lookup key with - | v
  · rintro rfl rfl
    rfl
  · exact fun h h' => hunique v held' held h' h

end Holds

/-- The thresholds and switches that the entries of their section describe. -/
structure DescribesGeneral (entries : TomlTable) (g : GeneralConfig) : Prop where
  minTestCoverage : Holds entries "min_test_coverage" IsPercentage 80 g.minTestCoverage
  maxFileLength : Holds entries "max_file_length" IsCount 300 g.maxFileLength
  maxFunctionLength : Holds entries "max_function_length" IsCount 50 g.maxFunctionLength
  checkBandit : Holds entries "check_bandit" IsSwitch true g.checkBandit
  checkMypy : Holds entries "check_mypy" IsSwitch true g.checkMypy
  checkRuff : Holds entries "check_ruff" IsSwitch true g.checkRuff
  mainBranch : Holds entries "main_branch" IsText "main" g.mainBranch
  enableAutoCommit : Holds entries "enable_auto_commit" IsSwitch false g.enableAutoCommit

/-- The source layout that the entries of its section describe. -/
structure DescribesPaths (entries : TomlTable) (p : PathsConfig) : Prop where
  srcDirs : Holds entries "src_dirs" IsList ["src", "app"] p.srcDirs
  testDir : Holds entries "test_dir" IsText "tests" p.testDir
  excludeDirs : Holds entries "exclude_dirs" IsList ["venv", ".venv", "__pycache__", "build", "dist"]
    p.excludeDirs

/-- The entries of a section; none where it is not there. -/
def entriesOf (document : TomlTable) (name : String) : TomlTable :=
  match document.lookup name with
  | some (.table entries) => entries
  | _ => []

/-- The configuration that a document describes. -/
structure Describes (document : TomlTable) (c : Config) : Prop where
  general : DescribesGeneral (entriesOf document "general") c.general
  paths : DescribesPaths (entriesOf document "paths") c.paths

/-! ### Readers decide the forms -/

variable {v : Toml}

/-- A number is read from an integer that is not negative and below the bound. -/
theorem natural?_eq_ok_iff {expected : String} {bound n : Nat} :
    natural? expected bound v = .ok n ↔ v = .integer n ∧ n < bound := by
  cases v with
  | integer value =>
    simp only [natural?, Toml.integer.injEq]
    split
    · simp only [Except.ok.injEq]
      omega
    · simp only [reduceCtorEq, false_iff]
      omega
  | _ => simp [natural?]

theorem percent?_eq_ok_iff {n : Nat} : percent? v = .ok n ↔ IsPercentage v n := by
  rw [percent?, natural?_eq_ok_iff, IsPercentage]
  exact and_congr_right' (Nat.lt_iff_le_pred (Nat.pow_pos Nat.two_pos))

theorem isCount_of_count? {n : Nat} (h : count? v = .ok n) : IsCount v n :=
  (natural?_eq_ok_iff.1 h).1

/-- No integer of a document is too great for a number of lines. -/
theorem count?_eq_ok_iff (h : v.IsWellFormed) {n : Nat} : count? v = .ok n ↔ IsCount v n := by
  refine ⟨isCount_of_count?, ?_⟩
  -- the bound of the reader is above what 63 bits hold
  rintro rfl
  have hlt : (n : Int) < 0x8000000000000000 := h.bounds.2
  refine natural?_eq_ok_iff.2 ⟨rfl, ?_⟩
  show n < 0x10000000000000000
  omega

theorem switch?_eq_ok_iff {on : Bool} : switch? v = .ok on ↔ IsSwitch v on := by
  cases v <;> simp [switch?, IsSwitch]

theorem text?_eq_some_iff {text : String} : v.text? = some text ↔ IsText v text := by
  cases v <;> simp [Toml.text?, IsText]

/-- A text is read from a string, or from a date and time as it is written. -/
theorem text?_eq_ok_iff {text : String} : text? v = .ok text ↔ IsText v text := by
  rw [← text?_eq_some_iff, text?]
  cases v.text? <;> simp

theorem arePieces_iff {pieces : List String} {text : String} :
    ArePieces pieces text ↔ pieces.map String.toList = Text.splitOn ',' text.toList := by
  constructor
  · -- pieces that are joined are the ones that cutting gives, so a text has no others
    rintro ⟨hne, hcomma, htext⟩
    rw [htext, Text.splitOn_joinWith (mt List.map_eq_nil_iff.1 hne)]
    exact List.forall_mem_map.2 hcomma
  · intro h
    refine ⟨?_, fun piece hpiece => ?_, ?_⟩
    · rintro rfl
      exact Text.splitOn_ne_nil ',' text.toList h.symm
    · apply Text.notMem_of_mem_splitOn
      rw [← h]
      exact List.mem_map_of_mem hpiece
    · rw [h, Text.joinWith_splitOn]

theorem splitList_eq (text : String) :
    splitList text = tidyList ((Text.splitOn ',' text.toList).map String.ofList) := by
  have hkept (piece : List Char) : decide (String.ofList piece ≠ "") = decide (piece ≠ []) := by
    simp
  simp only [splitList, tidyList, List.map_map, List.filter_map, Function.comp_def, Text.trimmed,
    String.toList_ofList, hkept]

/-- The items of a text are its pieces between commas, tidied. -/
theorem splitList_of_arePieces {pieces : List String} {text : String} (h : ArePieces pieces text) :
    splitList text = tidyList pieces := by
  have hpieces := congrArg (List.map String.ofList) (arePieces_iff.1 h)
  rw [List.map_map] at hpieces
  rw [splitList_eq, ← hpieces]
  simp

variable {items : List String}

/-- A text stands for one list, which is split from it. -/
theorem isList_iff_of_isText {text : String} (h : IsText v text) :
    IsList v items ↔ items = splitList text := by
  constructor
  · rintro ⟨pieces, rfl, ⟨other, hother, hpieces⟩ | ⟨values, rfl, -⟩⟩
    · -- the text of a value and its pieces are determined, so the list is
      have hsame := (text?_eq_some_iff.2 h).symm.trans (text?_eq_some_iff.2 hother)
      rw [Option.some.inj hsame, splitList_of_arePieces hpieces]
      rfl
    · rcases h with h | h <;> cases h
  · rintro rfl
    refine ⟨(Text.splitOn ',' text.toList).map String.ofList, splitList_eq text, .inl ⟨text, h, ?_⟩⟩
    rw [arePieces_iff, List.map_map]
    simp

theorem isList_array_iff {values : List Toml} :
    IsList (.array values) items ↔
      ∃ texts, List.Forall₂ IsText values texts ∧ tidyList texts = items := by
  constructor
  · rintro ⟨pieces, rfl, ⟨text, htext, -⟩ | ⟨others, heq, hothers⟩⟩
    · rcases htext with htext | htext <;> cases htext
    · cases heq
      exact ⟨pieces, hothers, rfl⟩
  · rintro ⟨texts, htexts, rfl⟩
    exact ⟨texts, rfl, .inr ⟨values, rfl, htexts⟩⟩

theorem mapM_text?_eq_some_iff {values : List Toml} {texts : List String} :
    values.mapM Toml.text? = some texts ↔ List.Forall₂ IsText values texts := by
  induction values generalizing texts with
  | nil => cases texts <;> simp
  | cons v values ih =>
    simp only [List.mapM_cons, List.forall₂_cons_left_iff, ← ih, ← text?_eq_some_iff]
    rcases v.text? with - | first
    · simp
    · rcases values.mapM Toml.text? with - | others <;> simp [eq_comm]

/-- A list is read from exactly the values that stand for it. -/
theorem list?_eq_ok_iff : list? v = .ok items ↔ IsList v items := by
  cases v with
  | string text => simp [list?, Toml.text?, isList_iff_of_isText (.inl rfl), eq_comm]
  | datetime text => simp [list?, Toml.text?, isList_iff_of_isText (.inr rfl), eq_comm]
  | array values =>
    simp only [isList_array_iff, ← mapM_text?_eq_some_iff, list?, Toml.text?]
    rcases values.mapM Toml.text? with - | texts <;> simp
  | _ => simp [list?, Toml.text?, IsList, IsText]

/-! ### Forms mean one thing -/

/-- What is decided by a reader stands for one thing. -/
theorem meansOneThing_of_read {read : Toml → Except Fault α} {Means : Toml → α → Prop}
    (h : ∀ {v a}, read v = .ok a ↔ Means v a) : MeansOneThing Means :=
  fun _ _ _ ha hb => Except.ok.inj ((h.2 ha).symm.trans (h.2 hb))

theorem meansOneThing_percentage : MeansOneThing IsPercentage :=
  meansOneThing_of_read percent?_eq_ok_iff

theorem meansOneThing_count : MeansOneThing IsCount :=
  fun _ _ _ hm hn => Int.ofNat_inj.1 (Toml.integer.inj (hm.symm.trans hn))

theorem meansOneThing_switch : MeansOneThing IsSwitch :=
  meansOneThing_of_read switch?_eq_ok_iff

theorem meansOneThing_text : MeansOneThing IsText :=
  meansOneThing_of_read text?_eq_ok_iff

theorem meansOneThing_list : MeansOneThing IsList :=
  meansOneThing_of_read list?_eq_ok_iff

end Config

end QualityGate
