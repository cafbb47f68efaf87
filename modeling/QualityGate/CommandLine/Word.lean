/-
Words of a command line, and what may be said on each of its two levels.

A word is the mark behind which only plain words follow, a long option, a group of short options, or a
plain word; a single dash is plain.  A switch takes a value, turns a flag on, or asks for information.
-/
import QualityGate.CommandLine.Colour
import QualityGate.Text.Cut

namespace QualityGate

/-- A word of a command line, as it looks. -/
inductive Word where
  | escape
  | long (name : List Char) (value : Option (List Char))
  | short (group : List Char)
  | plain

/-- What a word looks like. -/
def Word.of (word : List Char) : Word :=
  match word with
  | '-' :: '-' :: [] => .escape
  | '-' :: '-' :: rest =>
    match Text.around? ['='] rest with
    | some (name, value) => .long name (some value)
    | none => .long rest none
  | '-' :: c :: rest => .short (c :: rest)
  | _ => .plain

/-- What a value is for. -/
inductive Slot where
  | config
  | path
  | output
  | json
  | srcDirs
  deriving DecidableEq

/-- Something that is on or off. -/
inductive Flag where
  | autoCommit
  | color
  | noColor
  deriving DecidableEq

/-- What an option does. -/
inductive Switch where
  | takes (slot : Slot)
  | turnsOn (flag : Flag)
  | help
  | version
  deriving DecidableEq

/-- A level of the command line: before the command, and behind it. -/
inductive Level where
  | root
  | check
  deriving DecidableEq

namespace Level

/-- The long options of a level. -/
def longOptions : Level → List (String × Switch)
  | .root => [("config", .takes .config), ("help", .help), ("version", .version)]
  | .check =>
    [("output", .takes .output), ("json", .takes .json), ("src-dirs", .takes .srcDirs),
      ("auto-commit", .turnsOn .autoCommit), ("color", .turnsOn .color),
      ("no-color", .turnsOn .noColor), ("config", .takes .config), ("help", .help),
      ("version", .version)]

/-- The short options of a level. -/
def shortOptions : Level → List (Char × Switch)
  | .root => [('C', .takes .config), ('h', .help), ('V', .version)]
  | .check =>
    [('o', .takes .output), ('C', .takes .config), ('h', .help), ('V', .version)]

/-- The switch with a long name. -/
def long? (level : Level) (name : List Char) : Option Switch :=
  (level.longOptions.find? fun o => o.1.toList = name).map Prod.snd

/-- The switch with a short name. -/
def short? (level : Level) (c : Char) : Option Switch :=
  (level.shortOptions.find? fun o => o.1 = c).map Prod.snd

end Level

/-- Formats of the output. -/
inductive OutputFormat where
  | text
  | json
  deriving DecidableEq

namespace OutputFormat

/-- The format as it is written. -/
def label : OutputFormat → String
  | .text => "text"
  | .json => "json"

/-- The format with a name. -/
def ofLabel? (name : String) : Option OutputFormat :=
  [OutputFormat.text, .json].find? fun f => f.label = name

end OutputFormat

/-- The slot can hold the text: a format has to be known, and a path is not empty. -/
def Slot.accepts (slot : Slot) (value : String) : Bool :=
  match slot with
  | .output => (OutputFormat.ofLabel? value).isSome
  | .srcDirs => true
  | .config | .path | .json => value ≠ ""

end QualityGate
