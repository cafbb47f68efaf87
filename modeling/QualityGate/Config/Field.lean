/-
Fields of a configuration document.

A section is described by its fields in the order of their declaration: each has a key and says how
its value changes the section, or why it does not fit.  The same list decides which keys are known,
what a table means, and what an array of values means.  `message` words what does not fit.
-/
import QualityGate.Config.Basic
import QualityGate.Decimal.Shortest
import QualityGate.Text.Quoted
import QualityGate.Toml.Value

namespace QualityGate.Config

/-- Why a value does not fit. -/
inductive Fault where
  | wrongType (found : Toml) (expected : String)
  | outOfRange (value : Int) (expected : String)
  | tooManyValues (count : Nat)
  | noList

/-- A value as it is named where another one was expected. -/
def foundText : Toml → String
  | .string text | .datetime text => "string " ++ Text.quoted text
  | .integer value => "integer \x60" ++ toString value ++ "\x60"
  | .float value => "floating point \x60" ++ value.positionalText ++ "\x60"
  | .boolean value => "boolean \x60" ++ switchText value ++ "\x60"
  | .array _ => "sequence"
  | .table _ => "map"

/-- The fault's wording, without its place. -/
def Fault.reason : Fault → String
  | .wrongType found expected => "invalid type: " ++ foundText found ++ ", expected " ++ expected
  | .outOfRange value expected =>
    "invalid value: integer \x60" ++ toString value ++ "\x60, expected " ++ expected
  | .tooManyValues count => "invalid length " ++ count.repr ++ ", expected fewer elements in array"
  | .noList => "data did not match any variant of untagged enum Raw"

/-- A fault and the key where it stands. -/
structure Misfit where
  place : String
  fault : Fault

/-- The misfit's wording. -/
def Misfit.message (m : Misfit) : String :=
  m.fault.reason ++ "\nin \x60" ++ m.place ++ "\x60\n"

/-! ### Values of fields -/

/-- A natural number below a bound. -/
def natural? (expected : String) (bound : Nat) : Toml → Except Fault Nat
  | .integer value =>
    if 0 ≤ value ∧ value < bound then .ok value.toNat else .error (.outOfRange value expected)
  | v => .error (.wrongType v expected)

/-- A percentage. -/
def percent? : Toml → Except Fault Nat :=
  natural? "u32" (Nat.pow 2 32)

/-- A number of lines. -/
def count? : Toml → Except Fault Nat :=
  natural? "usize" (Nat.pow 2 64)

/-- A switch. -/
def switch? : Toml → Except Fault Bool
  | .boolean value => .ok value
  | v => .error (.wrongType v "a boolean")

/-- A text; a date or a time is its text. -/
def text? (v : Toml) : Except Fault String :=
  match v.text? with
  | some text => .ok text
  | none => .error (.wrongType v "a string")

/-- The items that remain when they are trimmed and empty ones dropped. -/
def tidyList (items : List String) : List String :=
  (items.map Text.trimmed).filter (· ≠ "")

/-- A list of texts: a text with commas, or an array. -/
def list? (v : Toml) : Except Fault (List String) :=
  match v.text?, v with
  | some text, _ => .ok (splitList text)
  | none, .array items =>
    match items.mapM Toml.text? with
    | some texts => .ok (tidyList texts)
    | none => .error .noList
  | none, _ => .error .noList

/-! ### Sections -/

/-- A field of a section. -/
structure Field (σ : Type) where
  key : String
  put : Toml → σ → Except Fault σ

/-- A field from how its value is read and how it is set. -/
def Field.of {σ α : Type} (key : String) (read : Toml → Except Fault α) (set : α → σ → σ) : Field σ :=
  ⟨key, fun v section_ => (read v).map fun a => set a section_⟩

/-- The fields of thresholds and switches. -/
def generalFields : List (Field GeneralConfig) :=
  [.of "min_test_coverage" percent? fun a g => { g with minTestCoverage := a },
    .of "max_file_length" count? fun a g => { g with maxFileLength := a },
    .of "max_function_length" count? fun a g => { g with maxFunctionLength := a },
    .of "check_bandit" switch? fun a g => { g with checkBandit := a },
    .of "check_mypy" switch? fun a g => { g with checkMypy := a },
    .of "check_ruff" switch? fun a g => { g with checkRuff := a },
    .of "main_branch" text? fun a g => { g with mainBranch := a },
    .of "enable_auto_commit" switch? fun a g => { g with enableAutoCommit := a }]

/-- The fields of the source layout. -/
def pathsFields : List (Field PathsConfig) :=
  [.of "src_dirs" list? fun a p => { p with srcDirs := a },
    .of "test_dir" text? fun a p => { p with testDir := a },
    .of "exclude_dirs" list? fun a p => { p with excludeDirs := a }]

variable {σ : Type}

/-- The section with the entries of a table put into it, in their order; unknown keys say nothing. -/
def putEntries (fields : List (Field σ)) (name : String) : TomlTable → σ → Except Misfit σ
  | [], s => .ok s
  | (key, v) :: rest, s =>
    match fields.find? fun f => f.key = key with
    | none => putEntries fields name rest s
    | some f =>
      match f.put v s with
      | .ok t => putEntries fields name rest t
      | .error fault => .error ⟨name ++ "." ++ key, fault⟩

/-- The section with values put into its first fields, and the values that are left over. -/
def putValues : List (Field σ) → List Toml → σ → Except Fault (σ × List Toml)
  | f :: fields, v :: values, s =>
    match f.put v s with
    | .ok t => putValues fields values t
    | .error fault => .error fault
  | _, values, s => .ok (s, values)

/-- A section from a table of its keys or an array of its first values. -/
def readSection (fields : List (Field σ)) (name kind : String) (v : Toml) (s : σ) : Except Misfit σ :=
  match v with
  | .table entries => putEntries fields name entries s
  | .array values =>
    match putValues fields values s with
    | .ok (t, []) => .ok t
    | .ok (_, _ :: _) => .error ⟨name, .tooManyValues values.length⟩
    | .error fault => .error ⟨name, fault⟩
  | _ => .error ⟨name, .wrongType v kind⟩

end QualityGate.Config
