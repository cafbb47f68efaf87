/-
A configuration that is spelled in other ways.

What a document says can be spelled differently: a list as an array of strings or as one text with commas,
a section as an array of its first values or as a table of their keys, and the source directories in the
document or on the command line.  Nothing of this changes the configuration (`spellings_agree`).

A list is spelled at a place of the document (`ListPlace`), and a section is read the same whatever
spelling stands there (`readSection_fill_congr`).  An array puts its values into the fields in their order,
as the entries of a table with the keys in that order would (`putEntries_zip`); the order of the entries of
a table says nothing, since what a section is read as depends on what is found for its keys
(`DescribesGeneral.eq`, `DescribesPaths.eq`).
-/
import Mathlib.Data.List.Nodup
import QualityGate.Proofs.Config.CommaList
import QualityGate.Proofs.Config.Decode

namespace QualityGate.Config

variable {σ : Type} {document other entries others front rest : TomlTable} {key name text : String}
  {v w : Toml} {values : List Toml} {items : List String} {c : Config} {s t : σ}

/-! ### Lists -/

/-- An array of strings without commas means what the text means that joins them. -/
theorem list?_array (h : ∀ item ∈ items, ',' ∉ item.toList) :
    list? (.array (items.map .string)) = list? (.string (joinList items)) := by
  have htexts : List.Forall₂ IsText (items.map .string) items := by
    rw [List.forall₂_map_left_iff, List.forall₂_same]
    exact fun item _ => .inl rfl
  have hitems : list? (.array (items.map .string)) = .ok (tidyList items) := by
    rw [list?_eq_ok_iff, isList_array_iff]
    exact ⟨items, htexts, rfl⟩
  rw [hitems, ← splitList_joinList_eq_tidyList h]
  rfl

/-- A place for a list in the source layout: behind a key of a table, or among the values of an array. -/
inductive ListPlace where
  | behind (key : String) (before after : TomlTable)
  | among (before after : List Toml)

namespace ListPlace

/-- The place belongs to one of the two lists of the source layout. -/
def IsOfList : ListPlace → Prop
  | behind key _ _ => key = "src_dirs" ∨ key = "exclude_dirs"
  | among before _ => before.length = 0 ∨ before.length = 2

/-- The source layout with a value at the place. -/
def fill : ListPlace → Toml → Toml
  | behind key before after, v => .table (before ++ (key, v) :: after)
  | among before after, v => .array (before ++ v :: after)

end ListPlace

/-- A field that takes a list takes alike what is read as the same list. -/
theorem put_congr {f : Field PathsConfig} (hf : f ∈ pathsFields) (hkey : f.key ≠ "test_dir")
    (h : list? v = list? w) (p : PathsConfig) : f.put v p = f.put w p := by
  simp only [pathsFields, List.mem_cons, List.not_mem_nil, or_false] at hf
  rcases hf with rfl | rfl | rfl
  · simp only [Field.of, h]
  · exact absurd rfl hkey
  · simp only [Field.of, h]

/-- So does a section, at the key of such a field. -/
theorem putEntry_congr (hkey : key = "src_dirs" ∨ key = "exclude_dirs") (h : list? v = list? w)
    (p : PathsConfig) : putEntry pathsFields name p (key, v) = putEntry pathsFields name p (key, w) := by
  rcases hfind : pathsFields.find? fun f => f.key = key with - | f
  · rw [putEntry_of_unknown hfind, putEntry_of_unknown hfind]
  · have hf : f.key = key := by simpa using List.find?_some hfind
    have hne : f.key ≠ "test_dir" := by
      rcases hkey with rfl | rfl <;> rw [hf] <;> decide
    simp only [putEntry, hfind, put_congr (List.mem_of_find?_eq_some hfind) hne h p]

/-- And it does where the list stands in its place among positional values. -/
theorem putValues_congr {before after : List Toml} (hplace : before.length = 0 ∨ before.length = 2)
    (h : list? v = list? w) (p : PathsConfig) :
    putValues pathsFields (before ++ v :: after) p = putValues pathsFields (before ++ w :: after) p := by
  rcases hplace with hplace | hplace
  · obtain rfl := List.length_eq_zero_iff.1 hplace
    simp only [pathsFields, List.nil_append, putValues, Field.of, h]
  · obtain ⟨first, second, rfl⟩ := List.length_eq_two.1 hplace
    simp only [pathsFields, List.cons_append, List.nil_append, putValues, Field.of, h]

/-- A section is read the same with either of two values that mean the same list. -/
theorem readSection_fill_congr {place : ListPlace} (hplace : place.IsOfList) (h : list? v = list? w)
    (name kind : String) (p : PathsConfig) :
    readSection pathsFields name kind (place.fill v) p =
      readSection pathsFields name kind (place.fill w) p := by
  cases place with
  | behind key before after =>
    simp only [ListPlace.fill, readSection, putEntries_eq_foldlM, List.foldlM_append, List.foldlM_cons,
      putEntry_congr hplace h]
  | among before after =>
    simp only [ListPlace.fill, readSection, putValues_congr hplace h, List.length_append,
      List.length_cons]

/-! ### One entry of a document -/

/-- A document in which one entry is replaced by one that is put alike is decoded alike. -/
theorem decode_congr (h : ∀ c, putSection c (key, v) = putSection c (key, w)) (front rest : TomlTable) :
    decode (front ++ (key, v) :: rest) = decode (front ++ (key, w) :: rest) := by
  simp only [decode, List.foldlM_append, List.foldlM_cons, h]

theorem decode_general_congr
    (h : readSection generalFields generalKey "struct GeneralConfig" v .standard =
      readSection generalFields generalKey "struct GeneralConfig" w .standard) (front rest : TomlTable) :
    decode (front ++ (generalKey, v) :: rest) = decode (front ++ (generalKey, w) :: rest) := by
  apply decode_congr
  intro c
  rw [putSection_general rfl, putSection_general rfl, h]

theorem decode_paths_congr
    (h : readSection pathsFields pathsKey "struct PathsConfig" v .standard =
      readSection pathsFields pathsKey "struct PathsConfig" w .standard) (front rest : TomlTable) :
    decode (front ++ (pathsKey, v) :: rest) = decode (front ++ (pathsKey, w) :: rest) := by
  apply decode_congr
  intro c
  rw [putSection_paths rfl, putSection_paths rfl, h]

/-! ### Sections as arrays -/

variable {fields : List (Field σ)} {forms : Forms}

/-- Values for the first keys of a section, in the order of the keys, each admissible for its key. -/
structure AreFirstValues (forms : Forms) (values : List Toml) : Prop where
  wellFormed : ∀ v ∈ values, v.IsWellFormed
  admissible : List.Forall₂ (fun form v => form.2 v) (forms.take values.length) values

theorem map_key_eq (hforms : List.Forall₂ Field.Takes fields forms) :
    fields.map Field.key = forms.map Prod.fst := by
  induction hforms with
  | nil => rfl
  | cons hform _ ih => rw [List.map_cons, List.map_cons, hform.1, ih]

/-- Values that are admissible in their places can all be put, and none is left over. -/
theorem exists_putValues (hforms : List.Forall₂ Field.Takes fields forms)
    (h : AreFirstValues forms values) (s : σ) : ∃ t, putValues fields values s = .ok (t, []) := by
  induction hforms generalizing values s with
  | nil =>
    -- without a key there is no value
    have hvalues := h.admissible
    rw [List.take_nil, List.forall₂_nil_left_iff] at hvalues
    rw [hvalues]
    exact ⟨s, rfl⟩
  | @cons f form fields forms hform _ ih =>
    cases values with
    | nil => exact ⟨s, rfl⟩
    | cons v values =>
      obtain ⟨hv, hwell⟩ := List.forall_mem_cons.1 h.wellFormed
      have hvalues := h.admissible
      rw [List.length_cons, List.take_succ_cons, List.forall₂_cons] at hvalues
      obtain ⟨t, ht⟩ := (hform.2 v hv s).2 hvalues.1
      obtain ⟨u, hu⟩ := ih ⟨hwell, hvalues.2⟩ t
      exact ⟨u, by rw [putValues, ht]; exact hu⟩

theorem find?_of_nodup (hkeys : (fields.map Field.key).Nodup) {f : Field σ} (hf : f ∈ fields) :
    (fields.find? fun g => g.key = f.key) = some f := by
  have hfound : (fields.find? fun g => g.key = f.key).isSome = true :=
    List.find?_isSome.2 ⟨f, hf, by simp⟩
  obtain ⟨g, hg⟩ := Option.isSome_iff_exists.1 hfound
  have hsame : g.key = f.key := by simpa using List.find?_some hg
  rw [hg, List.inj_on_of_nodup_map hkeys (List.mem_of_find?_eq_some hg) hf hsame]

/-- Values in the order of the fields do what entries with the keys of the fields do. -/
theorem putEntries_zip {left : List (Field σ)}
    (hfind : ∀ f ∈ left, (fields.find? fun g => g.key = f.key) = some f)
    (h : putValues left values s = .ok (t, [])) :
    putEntries fields name ((left.map Field.key).zip values) s = .ok t := by
  induction left generalizing values s with
  | nil =>
    cases h
    rfl
  | cons f left ih =>
    cases values with
    | nil =>
      cases h
      rfl
    | cons v values =>
      obtain ⟨hf, hleft⟩ := List.forall_mem_cons.1 hfind
      rw [putValues] at h
      -- the key in front is that of the field in front, which the search finds
      rw [List.map_cons, List.zip_cons_cons, putEntries, hf]
      dsimp only
      -- a fault would end both
      rcases hput : f.put v s with fault | u
      · rw [hput] at h
        cases h
      · rw [hput] at h
        exact ih hleft h

theorem map_fst_zip_sublist (keys : List String) (values : List Toml) :
    ((keys.zip values).map Prod.fst).Sublist keys := by
  induction keys generalizing values with
  | nil => exact List.Sublist.refl _
  | cons key keys ih =>
    cases values with
    | nil => exact List.nil_sublist _
    | cons v values => exact (ih values).cons_cons key

/-- What a section is read as depends only on what is found for each key. -/
def IsDetermined (fields : List (Field σ)) (s : σ) : Prop :=
  ∀ {name : String} {entries others : TomlTable} {t u : σ}, (entries.map Prod.fst).Nodup →
    (others.map Prod.fst).Nodup → (∀ key, others.lookup key = entries.lookup key) →
    putEntries fields name entries s = .ok t → putEntries fields name others s = .ok u → u = t

/-- A section is read the same from an array of its first values and from a table of their keys. -/
theorem readSection_array (hforms : List.Forall₂ Field.Takes fields forms)
    (hkeys : (fields.map Field.key).Nodup) (hdetermined : IsDetermined fields s)
    (hvalues : AreFirstValues forms values)
    (hentries : entries.Perm ((forms.map Prod.fst).zip values)) (name kind : String) :
    readSection fields name kind (.array values) s = readSection fields name kind (.table entries) s := by
  obtain ⟨t, ht⟩ := exists_putValues hforms hvalues s
  have hzip : putEntries fields name ((fields.map Field.key).zip values) s = .ok t :=
    putEntries_zip (fun f hf => find?_of_nodup hkeys hf) ht
  rw [map_key_eq hforms] at hkeys hzip
  have hnodup := hkeys.sublist (map_fst_zip_sublist _ values)
  have hnodup' : (entries.map Prod.fst).Nodup := (hentries.map Prod.fst).nodup_iff.2 hnodup
  -- the table has the entries that the values give, so it can be read as well
  have hwell : ∀ e ∈ (forms.map Prod.fst).zip values, e.2.IsWellFormed :=
    fun e he => hvalues.wellFormed e.2 (List.of_mem_zip he).2
  have hadmissible := (exists_putEntries_eq_ok_iff hforms hwell s).1 ⟨t, hzip⟩
  obtain ⟨u, hu⟩ : ∃ u, putEntries fields name entries s = .ok u :=
    (exists_putEntries_eq_ok_iff hforms (fun e he => hwell e (hentries.mem_iff.1 he)) s).2
      fun e he => hadmissible e (hentries.mem_iff.1 he)
  have hsame := hdetermined hnodup hnodup' (lookup_eq_of_perm hentries hnodup') hzip hu
  have harray : readSection fields name kind (.array values) s = .ok t := by
    rw [readSection, ht]
  rw [harray, readSection, hu, hsame]

/-! ### Sections are determined by their entries -/

/-- Entries in which every key has the same value describe one section only. -/
theorem DescribesGeneral.eq {g g' : GeneralConfig}
    (hlookup : ∀ key, others.lookup key = entries.lookup key) (h : DescribesGeneral entries g)
    (h' : DescribesGeneral others g') : g' = g := by
  rw [GeneralConfig.mk.injEq]
  exact ⟨h.minTestCoverage.eq (hlookup _) meansOneThing_percentage h'.minTestCoverage,
    h.maxFileLength.eq (hlookup _) meansOneThing_count h'.maxFileLength,
    h.maxFunctionLength.eq (hlookup _) meansOneThing_count h'.maxFunctionLength,
    h.checkBandit.eq (hlookup _) meansOneThing_switch h'.checkBandit,
    h.checkMypy.eq (hlookup _) meansOneThing_switch h'.checkMypy,
    h.checkRuff.eq (hlookup _) meansOneThing_switch h'.checkRuff,
    h.mainBranch.eq (hlookup _) meansOneThing_text h'.mainBranch,
    h.enableAutoCommit.eq (hlookup _) meansOneThing_switch h'.enableAutoCommit⟩

theorem DescribesPaths.eq {p p' : PathsConfig} (hlookup : ∀ key, others.lookup key = entries.lookup key)
    (h : DescribesPaths entries p) (h' : DescribesPaths others p') : p' = p := by
  rw [PathsConfig.mk.injEq]
  exact ⟨h.srcDirs.eq (hlookup _) meansOneThing_list h'.srcDirs,
    h.testDir.eq (hlookup _) meansOneThing_text h'.testDir,
    h.excludeDirs.eq (hlookup _) meansOneThing_list h'.excludeDirs⟩

/-- What is read into the section of thresholds is determined by the values at its keys. -/
theorem isDetermined_generalFields : IsDetermined generalFields .standard := by
  intro name entries others t u hentries hothers hlookup ht hu
  exact (describesGeneral_of_putEntries hentries ht).eq hlookup (describesGeneral_of_putEntries hothers hu)

/-- So is what is read into the section of the source layout. -/
theorem isDetermined_pathsFields : IsDetermined pathsFields .standard := by
  intro name entries others t u hentries hothers hlookup ht hu
  exact (describesPaths_of_putEntries hentries ht).eq hlookup (describesPaths_of_putEntries hothers hu)

/-! ### Source directories on the command line -/

/-- The other document has a text for the source directories, and is the same in everything else. -/
structure SetsSrcDirs (text : String) (document other : TomlTable) : Prop where
  elsewhere : ∀ key, key ≠ pathsKey → other.lookup key = document.lookup key
  paths : ∃ entries, other.lookup pathsKey = some (.table entries) ∧
    entries.lookup "src_dirs" = some (.string text) ∧
    ∀ key, key ≠ "src_dirs" → entries.lookup key = (entriesOf document pathsKey).lookup key

/-- A section whose values are those of a section that can be read, but for another text for the source
directories, can be read. -/
theorem exists_putEntries_srcDirs {p : PathsConfig} (hwell : (Toml.table entries).IsWellFormed)
    (hwell' : (Toml.table others).IsWellFormed) (hsrc : others.lookup "src_dirs" = some (.string text))
    (helse : ∀ key, key ≠ "src_dirs" → others.lookup key = entries.lookup key)
    (h : putEntries pathsFields name entries .standard = .ok p) :
    ∃ q, putEntries pathsFields name others .standard = .ok q := by
  have hadmissible := (exists_putEntries_eq_ok_iff takes_pathsForms (fun _ => hwell.values) _).1 ⟨p, h⟩
  refine (exists_putEntries_eq_ok_iff takes_pathsForms (fun _ => hwell'.values) _).2 ?_
  rintro ⟨key, v⟩ he admits hform
  have hlookup := (lookup_eq_some_iff_mem hwell'.nodup_keys).2 he
  -- the text at the changed key is a list, and the other entries were admissible before
  by_cases hkey : key = "src_dirs"
  · subst hkey
    obtain rfl := Option.some.inj (hsrc.symm.trans hlookup)
    obtain rfl := Option.some.inj (show some _ = some admits from hform)
    exact ⟨splitList text, (isList_iff_of_isText (.inl rfl)).2 rfl⟩
  · rw [helse key hkey] at hlookup
    exact hadmissible (key, v) (mem_of_lookup_eq_some hlookup) admits hform

/-- The source directories are those of the text, and the rest is as it was. -/
theorem putEntries_srcDirs {p : PathsConfig} (hwell : (Toml.table entries).IsWellFormed)
    (hwell' : (Toml.table others).IsWellFormed) (hsrc : others.lookup "src_dirs" = some (.string text))
    (helse : ∀ key, key ≠ "src_dirs" → others.lookup key = entries.lookup key)
    (h : putEntries pathsFields name entries .standard = .ok p) :
    putEntries pathsFields name others .standard = .ok { p with srcDirs := splitList text } := by
  obtain ⟨q, hq⟩ := exists_putEntries_srcDirs hwell hwell' hsrc helse h
  -- both results are described by their entries, so they agree at every key but one
  have hp := describesPaths_of_putEntries hwell.nodup_keys h
  have hdescribes := describesPaths_of_putEntries hwell'.nodup_keys hq
  have hlist : IsList (.string text) q.srcDirs := by
    have hholds := hdescribes.srcDirs
    rw [Holds, hsrc] at hholds
    exact hholds
  rw [hq, Except.ok.injEq, PathsConfig.mk.injEq]
  exact ⟨(isList_iff_of_isText (.inl rfl)).1 hlist,
    hp.testDir.eq (helse "test_dir" (by decide)) meansOneThing_text hdescribes.testDir,
    hp.excludeDirs.eq (helse "exclude_dirs" (by decide)) meansOneThing_list hdescribes.excludeDirs⟩

/-! ### Documents -/

/-- A document is read in one way only. -/
theorem IsRead.eq {d : Config} (h : IsRead document c) (h' : IsRead document d) : d = c := by
  have hread {α : Type} (read : Toml → Except Misfit α) :
      MeansOneThing fun v a => read v = .ok a :=
    fun _ _ _ ha hb => Except.ok.inj (ha.symm.trans hb)
  rw [Config.mk.injEq]
  exact ⟨h.general.eq rfl (hread _) h'.general, h.paths.eq rfl (hread _) h'.paths⟩

/-- A document that is read section by section can be decoded. -/
theorem exists_decode_of_isRead (hkeys : (document.map Prod.fst).Nodup) (h : IsRead document c) :
    ∃ d, decode document = .ok d := by
  -- each entry can be put, whichever section it is, and so all of them can
  have hput : ∀ e ∈ document, ∀ s, (∃ t, putSection s e = .ok t) ↔ True := by
    rintro ⟨key, v⟩ he s
    have hlookup := (lookup_eq_some_iff_mem hkeys).2 he
    rw [iff_true]
    rcases sections_cases key with ⟨rfl, -⟩ | ⟨rfl, -⟩ | ⟨hgeneral, hpaths, -⟩
    · have hread := h.general
      rw [Holds, hlookup] at hread
      exact ⟨_, (putSection_general rfl).trans (map_eq_ok_iff.2 ⟨_, hread, rfl⟩)⟩
    · have hread := h.paths
      rw [Holds, hlookup] at hread
      exact ⟨_, (putSection_paths rfl).trans (map_eq_ok_iff.2 ⟨_, hread, rfl⟩)⟩
    · exact ⟨s, putSection_of_ne hgeneral hpaths⟩
  exact (exists_foldlM_eq_ok_iff hput _).2 fun _ _ => trivial

/-- Decoding is reading section by section. -/
theorem decode_eq_ok_iff (hkeys : (document.map Prod.fst).Nodup) :
    decode document = .ok c ↔ IsRead document c := by
  refine ⟨isRead_of_decode hkeys, fun h => ?_⟩
  obtain ⟨d, hd⟩ := exists_decode_of_isRead hkeys h
  rw [hd, h.eq (isRead_of_decode hkeys hd)]

/-- The command line gives what the document would give with the text for the source directories. -/
theorem decode_setting_srcDirs (hwell : (Toml.table document).IsWellFormed)
    (hwell' : (Toml.table other).IsWellFormed)
    (htable : ∀ v, (pathsKey, v) ∈ document → ∃ entries, v = .table entries)
    (hsets : SetsSrcDirs text document other) (h : decode document = .ok c) :
    decode other = .ok (c.withSrcDirs (some text)) := by
  obtain ⟨hgeneral, hpaths⟩ := isRead_of_decode hwell.nodup_keys h
  obtain ⟨entries, hlookup, hsrc, helse⟩ := hsets.paths
  have hentries := isWellFormed_entriesOf hwell pathsKey
  have hentries' := hwell'.values (mem_of_lookup_eq_some hlookup)
  refine (decode_eq_ok_iff hwell'.nodup_keys).2 ⟨?_, ?_⟩
  · rw [Holds, hsets.elsewhere generalKey (by decide)]
    exact hgeneral
  · rw [Holds, hlookup]
    exact putEntries_srcDirs hentries hentries' hsrc helse (putEntries_entriesOf htable hpaths)

/-! ### All spellings -/

theorem override_override (args : CheckArguments) (c : Config) :
    args.override (args.override c) = args.override c := by
  obtain ⟨path, output, json, srcDirs, autoCommit, color, noColor⟩ := args
  cases srcDirs <;> cases autoCommit <;> rfl

theorem override_of_srcDirs {args : CheckArguments} (hsrc : args.srcDirs = some text)
    (hcommit : args.autoCommit = false) (c : Config) :
    args.override c = { c with paths := { c.paths with srcDirs := splitList text } } := by
  rw [CheckArguments.override, hsrc, hcommit]
  rfl

/-- A list means the same as an array of strings without commas and as the text that joins them.  A section
means the same as an array of its first values and as a table of their keys.  A text for the source
directories means the same on the command line and in the document, if the source layout is a table there or
not there at all; on the command line it changes nothing else, and nothing when it is applied again. -/
theorem spellings_agree :
    (∀ (front rest : TomlTable) (place : ListPlace) (items : List String), place.IsOfList →
      (∀ item ∈ items, ',' ∉ item.toList) →
      decode (front ++ (pathsKey, place.fill (.array (items.map .string))) :: rest) =
        decode (front ++ (pathsKey, place.fill (.string (joinList items))) :: rest)) ∧
    (∀ (front rest entries : TomlTable) (values : List Toml), AreFirstValues generalForms values →
      entries.Perm ((generalForms.map Prod.fst).zip values) →
      decode (front ++ (generalKey, .array values) :: rest) =
        decode (front ++ (generalKey, .table entries) :: rest)) ∧
    (∀ (front rest entries : TomlTable) (values : List Toml), AreFirstValues pathsForms values →
      entries.Perm ((pathsForms.map Prod.fst).zip values) →
      decode (front ++ (pathsKey, .array values) :: rest) =
        decode (front ++ (pathsKey, .table entries) :: rest)) ∧
    ∀ (args : CheckArguments) (text : String), args.srcDirs = some text → args.autoCommit = false →
      (∀ (document other : TomlTable) (c : Config), (Toml.table document).IsWellFormed →
        (Toml.table other).IsWellFormed →
        (∀ v, (pathsKey, v) ∈ document → ∃ entries, v = .table entries) →
        decode document = .ok c → SetsSrcDirs text document other →
        decode other = .ok (args.override c) ∧
          ∀ source, Toml.parse? source = some other → (read source).config = .ok (args.override c)) ∧
      ∀ c : Config, args.override (args.override c) = args.override c ∧
        args.override c = { c with paths := { c.paths with srcDirs := splitList text } } := by
  -- lists; the two sections by position and by key; then the option of the command
  refine ⟨fun front rest place items hplace hitems => ?_, fun front rest entries values hvalues hperm => ?_,
    fun front rest entries values hvalues hperm => ?_, fun args text hsrc hcommit => ⟨?_, fun c => ?_⟩⟩
  · exact decode_paths_congr (readSection_fill_congr hplace (list?_array hitems) _ _ _) front rest
  · exact decode_general_congr (readSection_array takes_generalForms (by decide)
      isDetermined_generalFields hvalues hperm _ _) front rest
  · exact decode_paths_congr (readSection_array takes_pathsForms (by decide)
      isDetermined_pathsFields hvalues hperm _ _) front rest
  · intro document other c hwell hwell' htable h hsets
    -- the document with the option written into it is decoded to the overridden configuration
    have hother : decode other = .ok (args.override c) := by
      rw [decode_setting_srcDirs hwell hwell' htable hsets h, CheckArguments.override, hsrc, hcommit]
      rfl
    refine ⟨hother, fun source hsource => ?_⟩
    rw [read_of_parse hsource, hother]
    rfl
  · exact ⟨override_override args c, override_of_srcDirs hsrc hcommit c⟩

/-- A document with an array for its first section and for the list in its second one. -/
theorem spellings_of_short_document :
    let document : TomlTable :=
      [("general", .array [.integer 90]), ("paths", .table [("src_dirs", .array [.string " lib"])])]
    let listed : TomlTable :=
      [("general", .table [("min_test_coverage", .integer 90)]),
        ("paths", .table [("src_dirs", .string " lib")])]
    let other : TomlTable :=
      [("general", .array [.integer 90]), ("paths", .table [("src_dirs", .string "lib, pkg ,")])]
    let args : CheckArguments := ⟨none, .text, none, some "lib, pkg ,", false, false, false⟩
    AreFirstValues generalForms [.integer 90] ∧ SetsSrcDirs "lib, pkg ," document other ∧
      decode document = decode listed ∧
      ∃ c, decode document = .ok c ∧ c.paths.srcDirs = ["lib"] ∧ decode other = .ok (args.override c) ∧
        (args.override c).paths.srcDirs = ["lib", "pkg"] := by
  intro document listed other args
  -- all three documents are well formed: their values are and their keys ascend
  have hinteger : (Toml.integer 90).IsWellFormed := .integer (by decide) (by decide)
  have hvalues : AreFirstValues generalForms [.integer 90] :=
    ⟨List.forall_mem_singleton.2 hinteger, .cons ⟨90, rfl, by decide⟩ .nil⟩
  have hwell (v : Toml) (hv : v.IsWellFormed) :
      (Toml.table [("general", .array [.integer 90]), ("paths", .table [("src_dirs", v)])]).IsWellFormed := by
    have hpaths : (Toml.table [("src_dirs", v)]).IsWellFormed :=
      .table (List.pairwise_singleton _ _) (List.forall_mem_singleton.2 hv)
    have hkeys : Toml.keyBytes "general" < Toml.keyBytes "paths" := by decide
    exact .table (List.pairwise_pair.2 hkeys) (List.forall_mem_cons.2
      ⟨.array (List.forall_mem_singleton.2 hinteger), List.forall_mem_singleton.2 hpaths⟩)
  -- the second document sets the source directories of the first and nothing else
  have hsets : SetsSrcDirs "lib, pkg ," document other := by
    refine ⟨fun key hkey => ?_, _, rfl, rfl, fun key hkey => ?_⟩
    · have hpaths : (key == "paths") = false := beq_false_of_ne hkey
      simp only [document, other, List.lookup_cons, hpaths]
    · change [("src_dirs", Toml.string _)].lookup key = [("src_dirs", Toml.array _)].lookup key
      simp only [List.lookup_cons, beq_false_of_ne hkey]
  obtain ⟨hlists, hgeneral, -, hargs⟩ := spellings_agree
  -- first the values of the one section get their keys, then the list becomes a text
  have hlisted : decode document = decode listed := by
    refine (hgeneral [] _ [("min_test_coverage", .integer 90)] _ hvalues (List.Perm.refl _)).trans ?_
    exact hlists [("general", .table [("min_test_coverage", .integer 90)])] []
      (.behind "src_dirs" [] []) [" lib"] (.inl rfl) (by decide)
  obtain ⟨hother, -⟩ := (hargs args "lib, pkg ," rfl rfl).1 document other _
    (hwell _ (.array (List.forall_mem_singleton.2 (.string _)))) (hwell _ (.string _))
    (by simp [document, pathsKey]) rfl hsets
  exact ⟨hvalues, hsets, hlisted, _, rfl, by decide, hother, by decide⟩

end QualityGate.Config
