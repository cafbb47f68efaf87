/-
Requirement lines and outdated packages.

A requirement line starts with the name of a package; blank lines, comments and options name nothing.
The list of outdated packages is a JSON array of objects with three strings each; it is looked up by
lower-cased name, and of several packages of one name the last one counts.
-/
import QualityGate.Json.Reader
import QualityGate.Text.Blank
import QualityGate.Text.Casing

namespace QualityGate

/-- A character that ends a package name. -/
def endsPackageName (c : Char) : Bool :=
  "=<>~!;[".toList.contains c || Text.isBlank c

/-- The lower-cased package name of a requirement line. -/
def requirementName? (line : List Char) : Option String :=
  let line := Text.trim line
  match line with
  | [] => none
  | c :: _ =>
    if c = '#' ∨ c = '-' then none
    else
      match line.takeWhile fun c => !endsPackageName c with
      | [] => none
      | name => some (String.ofList (Text.lower name))

/-- A package of which a later version exists. -/
structure OutdatedPackage where
  name : String
  version : String
  latest : String
  deriving DecidableEq

namespace OutdatedPackage

/-- The names of the three fields. -/
def fieldNames : List String := ["name", "version", "latest_version"]

/-- The single value of a field; a second one is refused. -/
def field? (members : List (Option String × Json)) (name : String) : Option String :=
  match members.filter fun m => m.1 = some name with
  | [m] => m.2.string?
  | _ => none

/-- The package that a JSON value denotes: an object with the three fields, or the three values in
order. -/
def ofJson? : Json → Option OutdatedPackage
  | .object members =>
    if members.all fun m => m.1.isSome then do
      let name ← field? members "name"
      let version ← field? members "version"
      let latest ← field? members "latest_version"
      return ⟨name, version, latest⟩
    else none
  | .array [name, version, latest] => do
    return ⟨← name.string?, ← version.string?, ← latest.string?⟩
  | _ => none

/-- The packages that a JSON text lists. -/
def parse? (text : String) : Option (List OutdatedPackage) :=
  match Json.parse? text.toList with
  | some (.array items) => items.mapM ofJson?
  | _ => none

/-- The package listed last under a lower-cased name. -/
def find? (packages : List OutdatedPackage) (name : String) : Option OutdatedPackage :=
  packages.reverse.find? fun p => Text.lowered p.name = name

/-- The lower-cased names, each once, each with the package that it finds. -/
def table (packages : List OutdatedPackage) : List (String × OutdatedPackage) :=
  let names := (packages.map fun p => Text.lowered p.name).eraseDups
  names.filterMap fun name => (find? packages name).map fun p => (name, p)

end OutdatedPackage

end QualityGate
