/-
The options of a configuration tell it from all others.

An option is a text, and a list is written with commas between its items, so different lists can be
written alike: one item with a comma, or two items.  Lists of items that can stand between commas
(`IsItem`) are read back from their text, and then no two configurations have the same options
(`eq_of_options_eq`).

Such lists are all that comes from the defaults, from texts with commas in a document
(`hasItems_of_decode`), and from the command line (`HasItems.override`).  Only an array can hold others.
-/
import QualityGate.Proofs.Config.CommaList
import QualityGate.Proofs.Config.Decode
import QualityGate.Proofs.Text.Digit

namespace QualityGate

open Config (IsItem)

/-- The lists hold only items that can stand between commas. -/
structure PathsConfig.HasItems (p : PathsConfig) : Prop where
  srcDirs : ∀ item ∈ p.srcDirs, IsItem item
  excludeDirs : ∀ item ∈ p.excludeDirs, IsItem item

namespace Config

variable {document : TomlTable} {c d : Config} {p q : PathsConfig} {v : Toml}

/-! ### Equal options -/

theorem switchText_injective : Function.Injective switchText := by
  have h : ∀ on off, switchText on = switchText off → on = off := by decide
  exact fun on off => h on off

theorem repr_injective : Function.Injective Nat.repr := by
  intro m n h
  have hread := Text.readNat?_repr m
  rw [h, Text.readNat?_repr] at hread
  exact (Option.some.inj hread).symm

theorem eq_of_options_eq (hc : c.paths.HasItems) (hd : d.paths.HasItems) (h : c.options = d.options) :
    c = d := by
  simp only [options, List.cons.injEq, Prod.mk.injEq, true_and, and_true] at h
  obtain ⟨hbandit, hmypy, hruff, hcommit, hexclude, hbranch, hfile, hfunction, hcoverage, hsrc, htest⟩ := h
  have hgeneral : c.general = d.general := by
    rw [GeneralConfig.mk.injEq]
    exact ⟨repr_injective hcoverage, repr_injective hfile, repr_injective hfunction,
      switchText_injective hbandit, switchText_injective hmypy, switchText_injective hruff, hbranch,
      switchText_injective hcommit⟩
  have hpaths : c.paths = d.paths := by
    rw [PathsConfig.mk.injEq]
    exact ⟨eq_of_joinList_eq hc.srcDirs hd.srcDirs hsrc, htest,
      eq_of_joinList_eq hc.excludeDirs hd.excludeDirs hexclude⟩
  rw [Config.mk.injEq]
  exact ⟨hgeneral, hpaths⟩

/-! ### Where lists come from -/

theorem hasItems_standard : PathsConfig.standard.HasItems :=
  ⟨by decide, by decide⟩

/-- What the command line sets is read from a text with commas. -/
theorem HasItems.override (hc : c.paths.HasItems) (args : CheckArguments) :
    (args.override c).paths.HasItems := by
  have hsrc : (c.withSrcDirs args.srcDirs).paths.HasItems := by
    rcases args.srcDirs with - | text
    · exact hc
    · exact ⟨fun _ => isItem_of_mem_splitList, hc.excludeDirs⟩
  rw [CheckArguments.override, withAutoCommit]
  split
  · exact hsrc
  · exact hsrc

/-- The values for the fields of a section: those of its keys, or those of an array. -/
def valuesOf : Toml → List Toml
  | .table entries => entries.map Prod.snd
  | .array values => values
  | _ => []

/-- None of the values for the fields of a section is an array. -/
def HasNoArray (v : Toml) : Prop :=
  ∀ w ∈ valuesOf v, ∀ items, w ≠ .array items

theorem isItem_of_list? {items : List String} (hv : ∀ values, v ≠ .array values)
    (h : list? v = .ok items) : ∀ item ∈ items, IsItem item := by
  have htext {text : String} (h : Except.ok (ε := Fault) (splitList text) = .ok items) :
      ∀ item ∈ items, IsItem item := by
    obtain rfl := Except.ok.inj h
    exact fun _ => isItem_of_mem_splitList
  cases v with
  | string text => exact htext h
  | datetime text => exact htext h
  | array values => exact absurd rfl (hv values)
  | _ => cases h

theorem hasItems_of_put {f : Field PathsConfig} (hf : f ∈ pathsFields)
    (hv : ∀ values, v ≠ .array values) (h : f.put v p = .ok q) (hp : p.HasItems) : q.HasItems := by
  simp only [pathsFields, List.mem_cons, List.not_mem_nil, or_false] at hf
  rcases hf with rfl | rfl | rfl
  all_goals
    obtain ⟨value, hread, rfl⟩ := map_eq_ok_iff.1 h
  · exact ⟨isItem_of_list? hv hread, hp.excludeDirs⟩
  · exact ⟨hp.srcDirs, hp.excludeDirs⟩
  · exact ⟨hp.srcDirs, isItem_of_list? hv hread⟩

theorem hasItems_of_putValues {fields : List (Field PathsConfig)} {values rest : List Toml}
    (hfields : ∀ f ∈ fields, f ∈ pathsFields) (hvalues : ∀ w ∈ values, ∀ items, w ≠ .array items)
    (h : putValues fields values p = .ok (q, rest)) (hp : p.HasItems) : q.HasItems := by
  induction fields generalizing p values with
  | nil =>
    cases h
    exact hp
  | cons f fields ih =>
    cases values with
    | nil =>
      cases h
      exact hp
    | cons v values =>
      obtain ⟨hf, hfields⟩ := List.forall_mem_cons.1 hfields
      obtain ⟨hv, hvalues⟩ := List.forall_mem_cons.1 hvalues
      rw [putValues] at h
      rcases hput : f.put v p with fault | r
      · rw [hput] at h
        cases h
      · rw [hput] at h
        exact ih hfields hvalues h (hasItems_of_put hf hv hput hp)

theorem hasItems_of_readSection {name kind : String} (hv : HasNoArray v)
    (h : readSection pathsFields name kind v p = .ok q) (hp : p.HasItems) : q.HasItems := by
  cases v with
  | table entries =>
    rw [readSection, putEntries_eq_foldlM] at h
    refine of_foldlM_eq_ok (fun e he s t hstep hs => ?_) hp h
    rcases putEntry_cases hstep with ⟨-, rfl⟩ | ⟨f, hf, -, hput⟩
    · exact hs
    · exact hasItems_of_put hf (hv e.2 (List.mem_map_of_mem he)) hput hs
  | array values =>
    rw [readSection] at h
    rcases hput : putValues pathsFields values p with fault | ⟨r, rest⟩
    · rw [hput] at h
      cases h
    · rw [hput] at h
      have hr := hasItems_of_putValues (fun _ hf => hf) hv hput hp
      cases rest with
      | nil =>
        cases h
        exact hr
      | cons w rest => cases h
  | _ => cases h

theorem hasItems_of_decode (hlists : ∀ v, (pathsKey, v) ∈ document → HasNoArray v)
    (h : decode document = .ok c) : c.paths.HasItems := by
  refine of_foldlM_eq_ok (P := fun c : Config => c.paths.HasItems) ?_ hasItems_standard h
  rintro ⟨key, v⟩ he c d hstep hc
  rcases putSection_cases hstep with ⟨-, g, -, rfl⟩ | ⟨rfl, p, hread, rfl⟩ | ⟨-, -, rfl⟩
  · exact hc
  · exact hasItems_of_readSection (hlists v he) hread hasItems_standard
  · exact hc

/-! ### Options and lists -/

/-- What a text with commas is cut into are items; items that are joined are read back, and so a list
that is cut, joined and cut again stays the same.  Configurations whose lists hold only such items are
equal if their options are; and they are all that comes from the defaults, from documents without arrays
of strings, and from the command line over these. -/
theorem options_tell_configurations_apart :
    (∀ text, ∀ item ∈ splitList text, IsItem item) ∧
      (∀ items, (∀ item ∈ items, IsItem item) → splitList (joinList items) = items) ∧
      (∀ text, splitList (joinList (splitList text)) = splitList text) ∧
      (∀ c d : Config, c.paths.HasItems → d.paths.HasItems → c.options = d.options → c = d) ∧
      standard.paths.HasItems ∧
      (∀ (document : TomlTable) c, (∀ v, (pathsKey, v) ∈ document → HasNoArray v) →
        decode document = .ok c → c.paths.HasItems) ∧
      ∀ (c : Config) (args : CheckArguments), c.paths.HasItems → (args.override c).paths.HasItems := by
  refine ⟨fun _ _ => isItem_of_mem_splitList, fun _ => splitList_joinList, fun text => ?_,
    fun _ _ => eq_of_options_eq, hasItems_standard, fun _ _ => hasItems_of_decode,
    fun _ args hc => HasItems.override hc args⟩
  exact splitList_joinList fun _ => isItem_of_mem_splitList

example : joinList ["src,app"] = joinList ["src", "app"] := rfl

end Config

end QualityGate
