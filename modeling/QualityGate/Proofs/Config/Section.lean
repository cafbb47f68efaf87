/-
Reading a section of a configuration document.

Sections and documents are both entries put one after another, so a few laws of that serve for both:
all entries are put exactly if each one can be (`exists_foldlM_eq_ok_iff`), what each of them keeps holds
behind all (`of_foldlM_eq_ok`), what only the entry of one key can change is what that entry makes of it
(`holds_of_foldlM`), and entries that change nothing can be left out.

The fields of a section go with the forms of its keys (`Field.Takes`).  So a section can be read exactly if
its entries are admissible (`exists_putEntries_eq_ok_iff`), and then it is the one that they describe.
-/
import QualityGate.Proofs.Config.Format

namespace QualityGate.Config

variable {σ α ε : Type} {entries : TomlTable}

/-! ### Entries put one after another -/

theorem map_eq_ok_iff {β : Type} {x : Except ε α} {f : α → β} {b : β} :
    x.map f = .ok b ↔ ∃ a, x = .ok a ∧ f a = b := by
  rcases x with cause | a <;> simp [Except.map]

theorem exists_map_eq_ok_iff {β : Type} {x : Except ε α} {f : α → β} :
    (∃ b, x.map f = .ok b) ↔ ∃ a, x = .ok a := by
  rcases x with cause | a <;> simp [Except.map]

section Fold

variable {step : σ → String × Toml → Except ε σ}

/-- All entries are put exactly if each one can be, whatever has been put before it. -/
theorem exists_foldlM_eq_ok_iff {Admits : String × Toml → Prop}
    (h : ∀ e ∈ entries, ∀ s, (∃ t, step s e = .ok t) ↔ Admits e) (s : σ) :
    (∃ t, entries.foldlM step s = .ok t) ↔ ∀ e ∈ entries, Admits e := by
  induction entries generalizing s with
  | nil => simp [pure, Except.pure]
  | cons e rest ih =>
    obtain ⟨he, hrest⟩ := List.forall_mem_cons.1 h
    rw [List.foldlM_cons, List.forall_mem_cons, ← he s]
    rcases step s e with fault | t
    · simp [bind, Except.bind]
    · simp [bind, Except.bind, ih hrest t]

/-- What every entry keeps holds behind all of them. -/
theorem of_foldlM_eq_ok {P : σ → Prop} {s t : σ}
    (h : ∀ e ∈ entries, ∀ s t, step s e = .ok t → P s → P t) (hs : P s)
    (hfold : entries.foldlM step s = .ok t) : P t := by
  induction entries generalizing s with
  | nil =>
    cases hfold
    exact hs
  | cons e rest ih =>
    obtain ⟨he, hrest⟩ := List.forall_mem_cons.1 h
    rw [List.foldlM_cons] at hfold
    -- a fault would have ended the fold, so the entry was put and keeps what held
    rcases hstep : step s e with fault | u
    · rw [hstep] at hfold
      cases hfold
    · rw [hstep] at hfold
      exact ih hrest (he s u hstep hs) hfold

/-- What only the entry of one key can change is what that entry makes of it. -/
theorem holds_of_foldlM (get : σ → α) {key : String} {Means : Toml → α → Prop} {s t : σ}
    (hsets : ∀ e ∈ entries, e.1 = key → ∀ s t, step s e = .ok t → Means e.2 (get t))
    (hkeeps : ∀ e ∈ entries, e.1 ≠ key → ∀ s t, step s e = .ok t → get t = get s)
    (hkeys : (entries.map Prod.fst).Nodup) (h : entries.foldlM step s = .ok t) :
    Holds entries key Means (get s) (get t) := by
  induction entries generalizing s with
  | nil =>
    cases h
    rfl
  | cons e rest ih =>
    obtain ⟨hset, hsets⟩ := List.forall_mem_cons.1 hsets
    obtain ⟨hkeep, hkeeps⟩ := List.forall_mem_cons.1 hkeeps
    rw [List.map_cons, List.nodup_cons] at hkeys
    rw [List.foldlM_cons] at h
    rcases hstep : step s e with fault | u
    · rw [hstep] at h
      cases h
    · rw [hstep] at h
      have hrest := ih hsets hkeeps hkeys.2 h
      by_cases hkey : e.1 = key
      · -- the key is not met again, so what its entry has made is left as it is
        rw [holds_of_notMem (hkey ▸ hkeys.1)] at hrest
        rw [holds_cons_of_eq hkey, hrest]
        exact hset hkey s u hstep
      · rw [holds_cons_of_ne hkey, ← hkeep hkey s u hstep]
        exact hrest

end Fold

/-! ### Fields -/

/-- The field has the key of a form and takes its values, whatever the section holds. -/
def Field.Takes (f : Field σ) (form : String × (Toml → Prop)) : Prop :=
  f.key = form.1 ∧ ∀ v, v.IsWellFormed → ∀ s, (∃ t, f.put v s = .ok t) ↔ form.2 v

section Field

variable {key : String} {read : Toml → Except Fault α} {set : α → σ → σ} {s t : σ} {v : Toml}

theorem forall_put_of_iff {P : σ → Prop} :
    (∀ t, (Field.of key read set).put v s = .ok t → P t) ↔ ∀ a, read v = .ok a → P (set a s) := by
  simp only [Field.of, map_eq_ok_iff, forall_exists_index, and_imp]
  constructor
  · intro h a ha
    exact h (set a s) a ha rfl
  · rintro h _ a ha rfl
    exact h a ha

@[simp] theorem key_of : (Field.of key read set).key = key := rfl

/-- A field whose reader decides a form takes the values of the form. -/
theorem takes_of {Means : Toml → α → Prop}
    (h : ∀ {v}, v.IsWellFormed → ∀ {a}, read v = .ok a ↔ Means v a) :
    (Field.of key read set).Takes (key, fun v => ∃ a, Means v a) := by
  refine ⟨rfl, fun v hv s => ?_⟩
  simp only [Field.of, exists_map_eq_ok_iff, h hv]

end Field

/-- The fields of thresholds and switches take the forms of their keys. -/
theorem takes_generalForms : List.Forall₂ Field.Takes generalFields generalForms := by
  simp only [generalFields, generalForms, List.forall₂_cons, List.forall₂_nil_left_iff, and_true]
  exact ⟨takes_of fun _ => percent?_eq_ok_iff, takes_of count?_eq_ok_iff, takes_of count?_eq_ok_iff,
    takes_of fun _ => switch?_eq_ok_iff, takes_of fun _ => switch?_eq_ok_iff,
    takes_of fun _ => switch?_eq_ok_iff, takes_of fun _ => text?_eq_ok_iff,
    takes_of fun _ => switch?_eq_ok_iff⟩

/-- The fields of the source layout take theirs. -/
theorem takes_pathsForms : List.Forall₂ Field.Takes pathsFields pathsForms := by
  simp only [pathsFields, pathsForms, List.forall₂_cons, List.forall₂_nil_left_iff, and_true]
  exact ⟨takes_of fun _ => list?_eq_ok_iff, takes_of fun _ => text?_eq_ok_iff,
    takes_of fun _ => list?_eq_ok_iff⟩

/-- A key is known to both the fields and the forms, or to neither. -/
theorem find?_cases {fields : List (Field σ)} {forms : Forms}
    (h : List.Forall₂ Field.Takes fields forms) (key : String) :
    ((fields.find? fun f => f.key = key) = none ∧ forms.lookup key = none) ∨
      ∃ f admits, (fields.find? fun f => f.key = key) = some f ∧ forms.lookup key = some admits ∧
        f.Takes (key, admits) := by
  induction h with
  | nil => exact .inl ⟨rfl, rfl⟩
  | @cons f form fields forms hform _ ih =>
    obtain ⟨hkey, htakes⟩ := hform
    rw [List.find?_cons, List.lookup_cons]
    -- fields and forms are searched in step, and both stop at the same key
    by_cases hf : f.key = key
    · have hform : key == form.1 := beq_iff_eq.2 (hf.symm.trans hkey)
      simp only [hf, hform, decide_true]
      exact .inr ⟨f, form.2, rfl, rfl, hf, htakes⟩
    · have hform : (key == form.1) = false := beq_false_of_ne fun heq => hf (hkey.trans heq.symm)
      simp only [hf, hform, decide_false]
      exact ih

/-! ### Sections -/

variable {fields : List (Field σ)} {forms : Forms} {name : String} {s t : σ}

/-- The section with one more entry put into it; an unknown key says nothing. -/
def putEntry (fields : List (Field σ)) (name : String) (s : σ) (e : String × Toml) : Except Misfit σ :=
  match fields.find? fun f => f.key = e.1 with
  | none => .ok s
  | some f => (f.put e.2 s).mapError fun fault => ⟨name ++ "." ++ e.1, fault⟩

/-- Putting entries is putting one after another. -/
theorem putEntries_eq_foldlM (fields : List (Field σ)) (name : String) (s : σ) :
    putEntries fields name entries s = entries.foldlM (putEntry fields name) s := by
  induction entries generalizing s with
  | nil => rfl
  | cons e rest ih =>
    obtain ⟨key, v⟩ := e
    rw [List.foldlM_cons, putEntries, putEntry]
    -- an entry without a field is passed over on both sides
    rcases hfind : fields.find? fun f => f.key = key with - | f
    · simp only [hfind]
      exact ih s
    · simp only [hfind]
      rcases f.put v s with fault | t
      · rfl
      · exact ih t

section Entry

variable {e : String × Toml} {f : Field σ}

/-- A key that no field has changes nothing. -/
theorem putEntry_of_unknown (h : (fields.find? fun f => f.key = e.1) = none) :
    putEntry fields name s e = .ok s := by
  simp only [putEntry, h]

theorem putEntry_eq_ok_iff (h : (fields.find? fun f => f.key = e.1) = some f) :
    putEntry fields name s e = .ok t ↔ f.put e.2 s = .ok t := by
  simp only [putEntry, h]
  rcases f.put e.2 s with fault | u <;> simp [Except.mapError]

/-- What one entry does to a section. -/
theorem putEntry_cases (h : putEntry fields name s e = .ok t) :
    ((∀ f ∈ fields, f.key ≠ e.1) ∧ t = s) ∨ ∃ f ∈ fields, f.key = e.1 ∧ f.put e.2 s = .ok t := by
  rcases hfind : fields.find? fun f => f.key = e.1 with - | f
  · rw [putEntry_of_unknown hfind] at h
    exact .inl ⟨by simpa using hfind, (Except.ok.inj h).symm⟩
  · have hkey := List.find?_some hfind
    exact .inr ⟨f, List.mem_of_find?_eq_some hfind, of_decide_eq_true hkey,
      (putEntry_eq_ok_iff hfind).1 h⟩

/-- An entry can be put into a section exactly if it is unknown or has an admissible value. -/
theorem exists_putEntry_eq_ok_iff (hforms : List.Forall₂ Field.Takes fields forms)
    (he : e.2.IsWellFormed) (s : σ) :
    (∃ t, putEntry fields name s e = .ok t) ↔
      ∀ admits, forms.lookup e.1 = some admits → admits e.2 := by
  rcases find?_cases hforms e.1 with ⟨hfind, hform⟩ | ⟨f, admits, hfind, hform, -, htakes⟩
  · simp [putEntry_of_unknown hfind, hform]
  · simp [putEntry_eq_ok_iff hfind, hform, htakes e.2 he s]

end Entry

/-- A section can be read exactly if its entries are admissible. -/
theorem exists_putEntries_eq_ok_iff (hforms : List.Forall₂ Field.Takes fields forms)
    (hentries : ∀ e ∈ entries, e.2.IsWellFormed) (s : σ) :
    (∃ t, putEntries fields name entries s = .ok t) ↔ AreAdmissible forms entries := by
  rw [putEntries_eq_foldlM]
  exact exists_foldlM_eq_ok_iff (fun e he => exists_putEntry_eq_ok_iff hforms (hentries e he)) s

/-- Of the fields, only the one of a key changes what `get` shows, namely to what its value is read
as. -/
def IsSetBy (fields : List (Field σ)) (key : String) (read : Toml → Except Fault α) (get : σ → α) :
    Prop :=
  (∃ f ∈ fields, f.key = key) ∧ ∀ f ∈ fields, ∀ v s t, f.put v s = .ok t →
    if f.key = key then read v = .ok (get t) else get t = get s

/-- A part of a section that one key alone sets holds what that key says. -/
theorem holds_of_putEntries {key : String} {read : Toml → Except Fault α} {get : σ → α}
    (hset : IsSetBy fields key read get) (hkeys : (entries.map Prod.fst).Nodup)
    (h : putEntries fields name entries s = .ok t) :
    Holds entries key (fun v a => read v = .ok a) (get s) (get t) := by
  obtain ⟨⟨own, hown, hkey⟩, hput⟩ := hset
  rw [putEntries_eq_foldlM] at h
  -- its own entry sets it, and every other entry keeps it
  refine holds_of_foldlM get ?_ ?_ hkeys h
  · rintro ⟨_, v⟩ - rfl s t hstep
    rcases putEntry_cases hstep with ⟨hunknown, -⟩ | ⟨f, hf, hsame, hstep⟩
    · exact absurd hkey (hunknown own hown)
    · have hread := hput f hf v s t hstep
      rwa [if_pos hsame] at hread
  · rintro ⟨other, v⟩ - hne s t hstep
    rcases putEntry_cases hstep with ⟨-, rfl⟩ | ⟨f, hf, hsame, hstep⟩
    · rfl
    · have hkept := hput f hf v s t hstep
      rwa [if_neg (hsame.trans_ne hne)] at hkept

/-- What entries are read into is described by them, thresholds and switches first. -/
theorem describesGeneral_of_putEntries {g : GeneralConfig} (hkeys : (entries.map Prod.fst).Nodup)
    (h : putEntries generalFields name entries .standard = .ok g) : DescribesGeneral entries g := by
  refine ⟨(holds_of_putEntries ?_ hkeys h).imp percent?_eq_ok_iff.1,
    (holds_of_putEntries ?_ hkeys h).imp isCount_of_count?,
    (holds_of_putEntries ?_ hkeys h).imp isCount_of_count?,
    (holds_of_putEntries ?_ hkeys h).imp switch?_eq_ok_iff.1,
    (holds_of_putEntries ?_ hkeys h).imp switch?_eq_ok_iff.1,
    (holds_of_putEntries ?_ hkeys h).imp switch?_eq_ok_iff.1,
    (holds_of_putEntries ?_ hkeys h).imp text?_eq_ok_iff.1,
    (holds_of_putEntries ?_ hkeys h).imp switch?_eq_ok_iff.1⟩
  -- eight fields are compared with each key, and the keys differ
  all_goals simp [IsSetBy, generalFields, forall_put_of_iff]

theorem describesPaths_of_putEntries {p : PathsConfig} (hkeys : (entries.map Prod.fst).Nodup)
    (h : putEntries pathsFields name entries .standard = .ok p) : DescribesPaths entries p := by
  refine ⟨(holds_of_putEntries ?_ hkeys h).imp list?_eq_ok_iff.1,
    (holds_of_putEntries ?_ hkeys h).imp text?_eq_ok_iff.1,
    (holds_of_putEntries ?_ hkeys h).imp list?_eq_ok_iff.1⟩
  all_goals simp [IsSetBy, pathsFields, forall_put_of_iff]

/-- Unknown keys of a section can be left out. -/
theorem putEntries_filter (hforms : List.Forall₂ Field.Takes fields forms) (s : σ) :
    putEntries fields name (entries.filter fun e => (forms.lookup e.1).isSome) s =
      putEntries fields name entries s := by
  rw [putEntries_eq_foldlM, putEntries_eq_foldlM, List.foldlM_filter]
  -- it suffices that an entry which is left out changes nothing
  congr 1
  funext s e
  rcases find?_cases hforms e.1 with ⟨hfind, hform⟩ | ⟨f, admits, hfind, hform, -⟩
  · rw [hform, putEntry_of_unknown hfind]
    rfl
  · rw [hform]
    rfl

theorem readSection_pruned (hforms : List.Forall₂ Field.Takes fields forms) (name kind : String)
    (v : Toml) (s : σ) :
    readSection fields name kind (pruned forms v) s = readSection fields name kind v s := by
  cases v with
  | table entries => exact putEntries_filter hforms s
  | _ => rfl

end QualityGate.Config
