/-
Reading a configuration document.

A document is a table with a section of thresholds and switches and a section for the source layout.
What it does not mention has its default.  A key that names nothing is reported and otherwise
ignored; reports do not depend on whether the document can be decoded.
-/
import QualityGate.Config.Field
import QualityGate.Failure
import QualityGate.Toml.Document

namespace QualityGate.Config

/-- The key of thresholds and switches. -/
def generalKey : String := "general"

/-- The key of the source layout. -/
def pathsKey : String := "paths"

/-- The keys of a section that name none of its fields, with the name of the section. -/
def unknownIn {σ : Type} (fields : List (Field σ)) (name : String) : Toml → List String
  | .table entries =>
    entries.filterMap fun e =>
      if fields.any fun f => f.key = e.1 then none else some (name ++ "." ++ e.1)
  | _ => []

/-- The keys of a document that name nothing, in its order. -/
def unknownKeys (document : TomlTable) : List String :=
  document.flatMap fun e =>
    if e.1 = generalKey then unknownIn generalFields e.1 e.2
    else if e.1 = pathsKey then unknownIn pathsFields e.1 e.2
    else [e.1]

/-- The configuration with one more entry of a document. -/
def putSection (c : Config) (e : String × Toml) : Except Misfit Config :=
  if e.1 = generalKey then
    (readSection generalFields e.1 "struct GeneralConfig" e.2 .standard).map fun g =>
      { c with general := g }
  else if e.1 = pathsKey then
    (readSection pathsFields e.1 "struct PathsConfig" e.2 .standard).map fun p =>
      { c with paths := p }
  else .ok c

/-- The configuration that a document describes. -/
def decode (document : TomlTable) : Except Misfit Config :=
  document.foldlM putSection .standard

/-- What a text says: the keys that name nothing, and the configuration. -/
structure Reading where
  unknown : List String
  config : Except Failure Config

/-- Reads a text.  Of what the reader of documents says about a text that is none, only the beginning is
given here; behind it the reader shows the place where it stopped, in a wording of its own. -/
def read (text : List Char) : Reading :=
  match Toml.parse? text with
  | none => ⟨[], .error (.config "TOML parse error")⟩
  | some document =>
    ⟨unknownKeys document, (decode document).mapError fun m => .config m.message⟩

/-- What is said of a key that names nothing. -/
def unrecognized (path : Path) (key : String) : String :=
  path.text ++ ": unrecognized field \x60" ++ key ++ "\x60"

end QualityGate.Config
