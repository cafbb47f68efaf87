/-
Configuration: thresholds, switches and the source layout, each with a default.

`options` flattens a configuration into named texts, lists with commas between their items;
`splitList` reads such a list back, trimmed and without empty items.
-/
import QualityGate.Text.Blank
import QualityGate.Text.Cut

namespace QualityGate

/-- Cuts a list at commas; items are trimmed and empty ones dropped. -/
def splitList (value : String) : List String :=
  ((Text.splitOn ',' value.toList).map Text.trim).filter (· ≠ []) |>.map String.ofList

/-- The items with commas between them. -/
def joinList (items : List String) : String :=
  ",".intercalate items

/-- Thresholds and switches. -/
structure GeneralConfig where
  minTestCoverage : Nat
  maxFileLength : Nat
  maxFunctionLength : Nat
  checkBandit : Bool
  checkMypy : Bool
  checkRuff : Bool
  mainBranch : String
  enableAutoCommit : Bool
  deriving DecidableEq

/-- The source layout. -/
structure PathsConfig where
  srcDirs : List String
  testDir : String
  excludeDirs : List String
  deriving DecidableEq

/-- A full configuration. -/
structure Config where
  general : GeneralConfig
  paths : PathsConfig
  deriving DecidableEq

/-- Thresholds and switches where nothing is configured. -/
def GeneralConfig.standard : GeneralConfig where
  minTestCoverage := 80
  maxFileLength := 300
  maxFunctionLength := 50
  checkBandit := true
  checkMypy := true
  checkRuff := true
  mainBranch := "main"
  enableAutoCommit := false

/-- The source layout where nothing is configured. -/
def PathsConfig.standard : PathsConfig where
  srcDirs := ["src", "app"]
  testDir := "tests"
  excludeDirs := ["venv", ".venv", "__pycache__", "build", "dist"]

namespace Config

/-- The configuration where nothing is configured. -/
def standard : Config :=
  ⟨.standard, .standard⟩

/-- A switch as it is written. -/
def switchText (on : Bool) : String :=
  if on then "true" else "false"

/-- The options as named texts, in the order of their names. -/
def options (c : Config) : List (String × String) :=
  [("check_bandit", switchText c.general.checkBandit),
    ("check_mypy", switchText c.general.checkMypy),
    ("check_ruff", switchText c.general.checkRuff),
    ("enable_auto_commit", switchText c.general.enableAutoCommit),
    ("exclude_dirs", joinList c.paths.excludeDirs),
    ("main_branch", c.general.mainBranch),
    ("max_file_length", c.general.maxFileLength.repr),
    ("max_function_length", c.general.maxFunctionLength.repr),
    ("min_test_coverage", c.general.minTestCoverage.repr),
    ("src_dirs", joinList c.paths.srcDirs),
    ("test_dir", c.paths.testDir)]

/-- The configuration with other source directories, if a list of them is given. -/
def withSrcDirs (c : Config) (list : Option String) : Config :=
  match list with
  | some dirs => { c with paths := { c.paths with srcDirs := splitList dirs } }
  | none => c

/-- The configuration with auto-commit recorded, if asked for. -/
def withAutoCommit (c : Config) (on : Bool) : Config :=
  if on then { c with general := { c.general with enableAutoCommit := true } } else c

end Config

end QualityGate
