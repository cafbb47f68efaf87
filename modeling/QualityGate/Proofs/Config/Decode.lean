/-
Decoding a configuration document.

A document is decoded section by section, so it is compared with its format by what one entry does
(`putSection_cases`) and by what is known of sections.  Its unknown keys are listed behind the names of
their sections (`unknownPaths`), and each is warned of before anything else is written.  All that is
put together in `decoding_follows_format`.
-/
import QualityGate.CommandLine.Run
import QualityGate.Proofs.Config.Section

namespace QualityGate.Config

variable {σ : Type} {entries : TomlTable} {fields : List (Field σ)} {forms : Forms} {name : String}
  {s t : σ}

/-! ### Documents -/

variable {document : TomlTable} {c d : Config} {key : String} {v : Toml}

/-- A key is that of one of the sections, with its forms, or of none. -/
theorem sections_cases (key : String) :
    key = generalKey ∧ sections.lookup key = some generalForms ∨
      key = pathsKey ∧ sections.lookup key = some pathsForms ∨
        key ≠ generalKey ∧ key ≠ pathsKey ∧ sections.lookup key = none := by
  by_cases hgeneral : key = generalKey
  · exact .inl ⟨hgeneral, hgeneral ▸ rfl⟩
  · by_cases hpaths : key = pathsKey
    · exact .inr (.inl ⟨hpaths, hpaths ▸ rfl⟩)
    · refine .inr (.inr ⟨hgeneral, hpaths, lookup_eq_none_iff.2 ?_⟩)
      show key ∉ [generalKey, pathsKey]
      simp [hgeneral, hpaths]

/-- An entry beside the two sections changes nothing. -/
theorem putSection_of_ne (hgeneral : key ≠ generalKey) (hpaths : key ≠ pathsKey) :
    putSection c (key, v) = .ok c := by
  rw [putSection, if_neg hgeneral, if_neg hpaths]

theorem putSection_general (h : key = generalKey) :
    putSection c (key, v) =
      (readSection generalFields generalKey "struct GeneralConfig" v .standard).map fun g =>
        { c with general := g } := by
  rw [putSection, if_pos h, h]

theorem putSection_paths (h : key = pathsKey) :
    putSection c (key, v) =
      (readSection pathsFields pathsKey "struct PathsConfig" v .standard).map fun p =>
        { c with paths := p } := by
  have hne : pathsKey ≠ generalKey := by decide
  rw [putSection, h, if_neg hne, if_pos rfl]

/-- An entry of a document is accepted exactly if it is unknown or its own entries are admissible. -/
theorem exists_putSection_eq_ok_iff (hv : v.IsWellFormed)
    (htable : ∀ forms, sections.lookup key = some forms → ∃ entries, v = .table entries) (c : Config) :
    (∃ d, putSection c (key, v) = .ok d) ↔ ∀ forms, sections.lookup key = some forms →
      ∀ entries, v = .table entries → AreAdmissible forms entries := by
  rcases sections_cases key with ⟨hkey, hforms⟩ | ⟨hkey, hforms⟩ | ⟨hgeneral, hpaths, hforms⟩
  · obtain ⟨entries, rfl⟩ := htable generalForms hforms
    rw [putSection_general hkey, exists_map_eq_ok_iff, readSection,
      exists_putEntries_eq_ok_iff takes_generalForms fun _ => hv.values]
    simp [hforms]
  · obtain ⟨entries, rfl⟩ := htable pathsForms hforms
    rw [putSection_paths hkey, exists_map_eq_ok_iff, readSection,
      exists_putEntries_eq_ok_iff takes_pathsForms fun _ => hv.values]
    simp [hforms]
  · simp [putSection_of_ne hgeneral hpaths, hforms]

/-- A document can be decoded exactly if it is admissible. -/
theorem exists_decode_eq_ok_iff (hwell : (Toml.table document).IsWellFormed)
    (htables : HasTables document) : (∃ c, decode document = .ok c) ↔ IsAdmissible document :=
  exists_foldlM_eq_ok_iff (fun e he => exists_putSection_eq_ok_iff (hwell.values he) (htables e he)) _

/-- The entries of a section that is read are put into what it is by default. -/
theorem putEntries_entriesOf {kind : String}
    (htable : ∀ v, (name, v) ∈ document → ∃ entries, v = .table entries)
    (h : Holds document name (fun v t => readSection fields name kind v s = .ok t) s t) :
    putEntries fields name (entriesOf document name) s = .ok t := by
  rw [Holds] at h
  rw [entriesOf]
  revert h
  rcases hlookup : document.lookup name with - | v
  · rintro rfl
    rfl
  · obtain ⟨entries, rfl⟩ := htable v (mem_of_lookup_eq_some hlookup)
    exact id

theorem isWellFormed_entriesOf (hwell : (Toml.table document).IsWellFormed) (name : String) :
    (Toml.table (entriesOf document name)).IsWellFormed := by
  rw [entriesOf]
  split
  · next entries hlookup => exact hwell.values (mem_of_lookup_eq_some hlookup)
  · exact .table .nil nofun

/-- What one entry of a document does to the configuration. -/
theorem putSection_cases (h : putSection c (key, v) = .ok d) :
    (key = generalKey ∧ ∃ g,
        readSection generalFields generalKey "struct GeneralConfig" v .standard = .ok g ∧
          d = { c with general := g }) ∨
      (key = pathsKey ∧ ∃ p,
        readSection pathsFields pathsKey "struct PathsConfig" v .standard = .ok p ∧
          d = { c with paths := p }) ∨
      (key ≠ generalKey ∧ key ≠ pathsKey ∧ d = c) := by
  -- the entry is the one section, the other, or neither
  rcases sections_cases key with ⟨hkey, -⟩ | ⟨hkey, -⟩ | ⟨hgeneral, hpaths, -⟩
  · rw [putSection_general hkey, map_eq_ok_iff] at h
    obtain ⟨g, hread, rfl⟩ := h
    exact .inl ⟨hkey, g, hread, rfl⟩
  · rw [putSection_paths hkey, map_eq_ok_iff] at h
    obtain ⟨p, hread, rfl⟩ := h
    exact .inr (.inl ⟨hkey, p, hread, rfl⟩)
  · rw [putSection_of_ne hgeneral hpaths] at h
    exact .inr (.inr ⟨hgeneral, hpaths, (Except.ok.inj h).symm⟩)

/-- A document is read section by section: each section of the configuration is what its value is read
as, and the default where it is not there. -/
structure IsRead (document : TomlTable) (c : Config) : Prop where
  general : Holds document generalKey
    (fun v g => readSection generalFields generalKey "struct GeneralConfig" v .standard = .ok g)
    .standard c.general
  paths : Holds document pathsKey
    (fun v p => readSection pathsFields pathsKey "struct PathsConfig" v .standard = .ok p)
    .standard c.paths

/-- What a document is decoded to is read from its two sections. -/
theorem isRead_of_decode (hkeys : (document.map Prod.fst).Nodup) (h : decode document = .ok c) :
    IsRead document c := by
  -- each section is set by its own entry, and the others leave it as it was
  have hdiffer : generalKey ≠ pathsKey := by decide
  constructor
  · refine holds_of_foldlM Config.general ?_ ?_ hkeys h
    · rintro ⟨key, v⟩ - rfl c d hput
      rcases putSection_cases hput with ⟨-, g, hread, rfl⟩ | ⟨hkey, -⟩ | ⟨hkey, -⟩
      · exact hread
      · exact absurd hkey hdiffer
      · exact absurd rfl hkey
    · rintro ⟨key, v⟩ - hkey c d hput
      rcases putSection_cases hput with ⟨hgeneral, -⟩ | ⟨-, p, -, rfl⟩ | ⟨-, -, rfl⟩
      · exact absurd hgeneral hkey
      · rfl
      · rfl
  · refine holds_of_foldlM Config.paths ?_ ?_ hkeys h
    · rintro ⟨key, v⟩ - rfl c d hput
      rcases putSection_cases hput with ⟨hkey, -⟩ | ⟨-, p, hread, rfl⟩ | ⟨-, hkey, -⟩
      · exact absurd hkey.symm hdiffer
      · exact hread
      · exact absurd rfl hkey
    · rintro ⟨key, v⟩ - hkey c d hput
      rcases putSection_cases hput with ⟨-, g, -, rfl⟩ | ⟨hpaths, -⟩ | ⟨-, -, rfl⟩
      · rfl
      · exact absurd hpaths hkey
      · rfl

/-- A configuration that is decoded holds what the document describes. -/
theorem describes_of_decode (hwell : (Toml.table document).IsWellFormed) (htables : HasTables document)
    (h : decode document = .ok c) : Describes document c := by
  obtain ⟨hgeneral, hpaths⟩ := isRead_of_decode hwell.nodup_keys h
  constructor
  · apply describesGeneral_of_putEntries (isWellFormed_entriesOf hwell _).nodup_keys
    exact putEntries_entriesOf (fun v hv => htables (generalKey, v) hv generalForms rfl) hgeneral
  · apply describesPaths_of_putEntries (isWellFormed_entriesOf hwell _).nodup_keys
    exact putEntries_entriesOf (fun v hv => htables (pathsKey, v) hv pathsForms rfl) hpaths

/-- Unknown keys can be left out, whether or not the document can be decoded. -/
theorem decode_withoutUnknown (document : TomlTable) :
    decode (withoutUnknown document) = decode document := by
  rw [decode, decode, withoutUnknown, List.foldlM_filterMap]
  -- one entry at a time: what is left out changes nothing, and what is left of a section reads the same
  congr 1
  funext c ⟨key, v⟩
  rcases sections_cases key with ⟨hkey, hforms⟩ | ⟨hkey, hforms⟩ | ⟨hgeneral, hpaths, hforms⟩
  · simp only [hforms, Option.map_some, putSection_general hkey,
      readSection_pruned takes_generalForms]
  · simp only [hforms, Option.map_some, putSection_paths hkey, readSection_pruned takes_pathsForms]
  · simp only [hforms, Option.map_none]
    exact (putSection_of_ne hgeneral hpaths).symm

/-! ### Unknown keys -/

/-- The keys of a section that no form is for, behind its name. -/
def unknownPathsIn (forms : Forms) (name : String) : Toml → List (List String)
  | .table entries => (entries.filter fun e => (forms.lookup e.1).isNone).map fun e => [name, e.1]
  | _ => []

/-- The keys that name nothing, in the order of the document. -/
def unknownPaths (document : TomlTable) : List (List String) :=
  document.flatMap fun e =>
    match sections.lookup e.1 with
    | none => [[e.1]]
    | some forms => unknownPathsIn forms e.1 e.2

theorem any_key_eq (hforms : List.Forall₂ Field.Takes fields forms) (key : String) :
    (fields.any fun f => f.key = key) = (forms.lookup key).isSome := by
  rw [← List.isSome_find?]
  rcases find?_cases hforms key with ⟨hfind, hform⟩ | ⟨f, admits, hfind, hform, -⟩
  · rw [hfind, hform]
    rfl
  · rw [hfind, hform]
    rfl

theorem unknownIn_eq (hforms : List.Forall₂ Field.Takes fields forms) (name : String) (v : Toml) :
    unknownIn fields name v = (unknownPathsIn forms name v).map (".".intercalate) := by
  cases v with
  | table entries =>
    rw [unknownIn, unknownPathsIn, List.map_map, ← List.filterMap_eq_map, List.filterMap_filter]
    congr 1
    funext e
    rw [any_key_eq hforms]
    rcases forms.lookup e.1 with - | admits <;> rfl
  | _ => rfl

/-- The keys that are reported are those of the unknown paths. -/
theorem unknownKeys_eq (document : TomlTable) :
    unknownKeys document = (unknownPaths document).map (".".intercalate) := by
  rw [unknownKeys, unknownPaths, List.map_flatMap]
  congr 1
  funext ⟨key, v⟩
  have hdiffer : pathsKey ≠ generalKey := by decide
  -- a section reports the keys inside, anything else is reported itself
  rcases sections_cases key with ⟨rfl, hforms⟩ | ⟨rfl, hforms⟩ | ⟨hgeneral, hpaths, hforms⟩
  · rw [if_pos rfl, hforms]
    exact unknownIn_eq takes_generalForms generalKey v
  · rw [if_neg hdiffer, if_pos rfl, hforms]
    exact unknownIn_eq takes_pathsForms pathsKey v
  · rw [if_neg hgeneral, if_neg hpaths, hforms]
    rfl

theorem mem_unknownPathsIn_iff {path : List String} :
    path ∈ unknownPathsIn forms name v ↔
      ∃ entries key w, v = .table entries ∧ (key, w) ∈ entries ∧ forms.lookup key = none ∧
        path = [name, key] := by
  cases v with
  | table entries =>
    simp only [unknownPathsIn, List.mem_map, List.mem_filter, Option.isNone_iff_eq_none]
    constructor
    · rintro ⟨⟨key, w⟩, ⟨hkey, hnone⟩, rfl⟩
      exact ⟨entries, key, w, rfl, hkey, hnone, rfl⟩
    · rintro ⟨entries', key, w, heq, hkey, hnone, rfl⟩
      cases heq
      exact ⟨(key, w), ⟨hkey, hnone⟩, rfl⟩
  | _ => simp [unknownPathsIn]

/-- The paths that are reported are those that name nothing. -/
theorem mem_unknownPaths_iff {path : List String} :
    path ∈ unknownPaths document ↔ IsUnknown document path := by
  rw [unknownPaths, List.mem_flatMap]
  constructor
  · rintro ⟨⟨name, v⟩, he, hpath⟩
    rcases hforms : sections.lookup name with - | forms
    · rw [hforms] at hpath
      rw [List.mem_singleton.1 hpath]
      exact .outside he hforms
    · rw [hforms] at hpath
      obtain ⟨entries, key, w, rfl, hkey, hnone, rfl⟩ := mem_unknownPathsIn_iff.1 hpath
      exact .inside hforms he hkey hnone
  · rintro (⟨he, hnone⟩ | ⟨hforms, he, hkey, hnone⟩)
    · refine ⟨_, he, ?_⟩
      rw [hnone]
      exact List.mem_singleton.2 rfl
    · refine ⟨_, he, ?_⟩
      rw [hforms]
      exact mem_unknownPathsIn_iff.2 ⟨_, _, _, rfl, hkey, hnone, rfl⟩

/-- Nothing unknown is left where the unknown keys are left out. -/
theorem not_isUnknown_withoutUnknown (path : List String) :
    ¬ IsUnknown (withoutUnknown document) path := by
  -- what is left outside is a section, and what is left inside has a form
  rintro (⟨hkey, hnone⟩ | ⟨hforms, hsection, hkey, hnone⟩)
  · obtain ⟨e, -, he⟩ := List.mem_filterMap.1 hkey
    obtain ⟨forms, hforms, heq⟩ := Option.map_eq_some_iff.1 he
    cases heq
    rw [hnone] at hforms
    cases hforms
  · obtain ⟨⟨name, v⟩, -, he⟩ := List.mem_filterMap.1 hsection
    obtain ⟨forms, hsome, heq⟩ := Option.map_eq_some_iff.1 he
    obtain ⟨rfl, hpruned⟩ := Prod.mk.inj heq
    obtain rfl := Option.some.inj (hforms.symm.trans hsome)
    cases v with
    | table entries =>
      cases hpruned
      have hknown := (List.mem_filter.1 hkey).2
      rw [hnone] at hknown
      cases hknown
    | _ => cases hpruned

theorem exists_cons_of_mem_unknownPaths {path : List String}
    (h : path ∈ match sections.lookup key with
      | none => [[key]]
      | some forms => unknownPathsIn forms key v) : ∃ rest, path = key :: rest := by
  split at h
  · exact ⟨[], List.mem_singleton.1 h⟩
  · obtain ⟨-, inner, -, -, -, -, rfl⟩ := mem_unknownPathsIn_iff.1 h
    exact ⟨[inner], rfl⟩

/-- Unknown paths are reported in the order of the bytes of their keys. -/
theorem pairwise_unknownPaths (hwell : (Toml.table document).IsWellFormed) :
    (unknownPaths document).Pairwise fun path later =>
      path.map Toml.keyBytes < later.map Toml.keyBytes := by
  rw [unknownPaths, List.pairwise_flatMap]
  constructor
  · -- below one key: they agree in it and are ordered by what follows
    rintro ⟨key, v⟩ he
    split
    · exact List.pairwise_singleton _ _
    · cases v with
      | table entries =>
        rw [unknownPathsIn, List.pairwise_map]
        exact ((hwell.values he).keys.filter _).imp fun hlt => .cons (.rel hlt)
      | _ => exact .nil
  · -- below different keys: these come first and decide
    refine hwell.keys.imp fun hlt path hpath later hlater => ?_
    obtain ⟨rest, rfl⟩ := exists_cons_of_mem_unknownPaths hpath
    obtain ⟨rest', rfl⟩ := exists_cons_of_mem_unknownPaths hlater
    exact .rel hlt

/-! ### The whole format -/

/-- The warning for a key that names nothing. -/
def warningFor (path : Path) (key : List String) : String :=
  ownLine ("warning: " ++ unrecognized path (".".intercalate key) ++ " (ignored)")

/-- A text that is a document reports its unknown paths, whether or not it can be decoded. -/
theorem read_of_parse {text : List Char} (h : Toml.parse? text = some document) :
    read text = ⟨(unknownPaths document).map (".".intercalate),
      (decode document).mapError fun m => .config m.message⟩ := by
  rw [read, h, ← unknownKeys_eq]

/-- The command behind its configuration, which could be decoded or not. -/
def performDecoded (i : Invocation) (args : CheckArguments) (project : Path) :
    Except Misfit Config → Answer
  | .error m => i.fail (.config m.message)
  | .ok c => i.check args project (args.override c)

/-- The warnings are written before anything else, whatever comes of the document. -/
theorem perform_of_parse {i : Invocation} {given : Option Path} {args : CheckArguments}
    {project path : Path} {text : List Char} (hproject : i.project args = .ok project)
    (hlocate : locate i.disk given project = .ok (some path))
    (htext : i.disk.readText path = .ok text) (hparse : Toml.parse? text = some document) :
    i.perform given args =
      (performDecoded i args project (decode document)).withErrors
        (String.join ((unknownPaths document).map (warningFor path))) := by
  simp only [Invocation.perform, hproject, Invocation.configuration, hlocate, load, htext,
    read_of_parse hparse, List.map_map]
  rcases decode document with m | c <;> rfl

/-- A document is decoded exactly if every known key that is there has an admissible value, and then
each field holds what its key's value means or its default.  Unknown keys change nothing, and there is
one warning for each, with its name behind that of its section, in the order of the keys' bytes; the
warnings are written whether or not the document can be decoded. -/
theorem decoding_follows_format (hwell : (Toml.table document).IsWellFormed)
    (htables : HasTables document) :
    ((∃ c, decode document = .ok c) ↔ IsAdmissible document) ∧
      (∀ c, decode document = .ok c → Describes document c) ∧
      (decode (withoutUnknown document) = decode document ∧
        ∀ key, ¬ IsUnknown (withoutUnknown document) key) ∧
      ∃ keys : List (List String),
        (∀ key, key ∈ keys ↔ IsUnknown document key) ∧
        (keys.Pairwise fun key later => key.map Toml.keyBytes < later.map Toml.keyBytes) ∧
        ∀ text, Toml.parse? text = some document →
          read text = ⟨keys.map (".".intercalate),
            (decode document).mapError fun m => .config m.message⟩ ∧
          ∀ (i : Invocation) given args project path, i.project args = .ok project →
            locate i.disk given project = .ok (some path) → i.disk.readText path = .ok text →
            i.perform given args = (performDecoded i args project (decode document)).withErrors
              (String.join (keys.map (warningFor path))) := by
  refine ⟨exists_decode_eq_ok_iff hwell htables, fun c => describes_of_decode hwell htables,
    ⟨decode_withoutUnknown document, not_isUnknown_withoutUnknown⟩, unknownPaths document,
    fun key => mem_unknownPaths_iff, pairwise_unknownPaths hwell,
    fun text hparse => ⟨read_of_parse hparse, ?_⟩⟩
  intro i given args project path hproject hlocate htext
  exact perform_of_parse hproject hlocate htext hparse

/-- A document with an unknown section and an unknown key in a known one. -/
theorem decoding_with_unknown_keys :
    let document : TomlTable :=
      [("general", .table [("check_mypy", .boolean false), ("colour", .string "red")]),
        ("tool", .table [])]
    (Toml.table document).IsWellFormed ∧ HasTables document ∧
      (∃ c, decode document = .ok c ∧ Describes document c) ∧
      decode [("general", .table [("check_mypy", .boolean false)])] = decode document ∧
      IsUnknown document ["general", "colour"] := by
  intro document
  -- the document is well formed from the inside to the outside
  have hgeneral :
      (Toml.table [("check_mypy", .boolean false), ("colour", .string "red")]).IsWellFormed :=
    .table (by decide) (List.forall_mem_cons.2 ⟨.boolean _, List.forall_mem_singleton.2 (.string _)⟩)
  have hwell : (Toml.table document).IsWellFormed :=
    .table (by decide)
      (List.forall_mem_cons.2 ⟨hgeneral, List.forall_mem_singleton.2 Toml.isWellFormed_nil⟩)
  have htables : HasTables document := by
    simp [HasTables, document]
  obtain ⟨-, hdescribes, ⟨hremove, -⟩, -⟩ := decoding_follows_format hwell htables
  exact ⟨hwell, htables, ⟨_, rfl, hdescribes _ rfl⟩, hremove,
    .inside rfl List.mem_cons_self (List.mem_cons_of_mem _ List.mem_cons_self) rfl⟩

end QualityGate.Config
