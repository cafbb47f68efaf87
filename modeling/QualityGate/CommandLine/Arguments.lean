/-
Reading the command line.

Words are read from left to right.  A value that has been read stays pending until the next option,
flag or plain word of the level, or its end; only then it is put into its slot.  So an unknown option
is reported before a pending value that does not fit.  A slot is filled at most once on a level.
-/
import QualityGate.CommandLine.Word
import QualityGate.Config.Basic
import QualityGate.Path

namespace QualityGate

/-- A fault in the use of the command line. -/
inductive UsageFault where
  | unknownArgument
  | invalidValue
  | argumentConflict
  | tooManyValues
  | invalidSubcommand
  deriving DecidableEq

/-- Why a command line is not carried out as a command: it asks for information, or has a fault. -/
inductive Interruption where
  | help (level : Level)
  | version (level : Level)
  | fault (cause : UsageFault)
  deriving DecidableEq

/-- What a level has been given so far. -/
structure Given where
  values : List (Slot × String)
  flags : List Flag
  pending : Option (Slot × Option String)
  onlyWords : Bool

namespace Given

/-- Nothing has been given. -/
def nothing : Given :=
  ⟨[], [], none, false⟩

/-- The value in a slot. -/
def value? (g : Given) (slot : Slot) : Option String :=
  (g.values.find? fun v => v.1 = slot).map Prod.snd

/-- The flag is on. -/
def has (g : Given) (flag : Flag) : Bool :=
  g.flags.contains flag

/-- An option waits for its value. -/
def awaits (g : Given) : Bool :=
  match g.pending with
  | some (_, none) => true
  | _ => false

/-- The path has been given. -/
def hasPath (g : Given) : Bool :=
  (g.value? .path).isSome || g.pending.any fun p => p.1 = .path

/-- Puts a value into its slot. -/
def fill (g : Given) (slot : Slot) (value : Option String) : Except Interruption Given :=
  match value with
  | none => .error (.fault .invalidValue)
  | some text =>
    if (g.value? slot).isSome then .error (.fault .argumentConflict)
    else if slot.accepts text then .ok { g with values := g.values ++ [(slot, text)] }
    else .error (.fault .invalidValue)

/-- Puts a pending value into its slot. -/
def settle (g : Given) : Except Interruption Given :=
  match g.pending with
  | none => .ok g
  | some (slot, value) => { g with pending := none }.fill slot value

/-- Follows a switch, with the value that is attached to it. -/
def follow (level : Level) (g : Given) (switch : Switch) (attached : Option String) :
    Except Interruption Given :=
  match switch, attached with
  | .takes slot, none => do
    return { ← g.settle with pending := some (slot, none) }
  | .takes slot, some text => do
    (← g.settle).fill slot (some text)
  | _, some _ => .error (.fault .tooManyValues)
  | .turnsOn flag, none => do
    let g ← g.settle
    if g.has flag then .error (.fault .argumentConflict)
    else return { g with flags := g.flags ++ [flag] }
  | .help, none => do
    let _ ← g.settle
    .error (.help level)
  | .version, none => do
    let _ ← g.settle
    .error (.version level)

/-- What is attached to a short option: the rest of its group, without an equals sign before it. -/
def attachedTo (rest : List Char) : Option String :=
  match rest with
  | [] => none
  | '=' :: value => some (String.ofList value)
  | value => some (String.ofList value)

/-- Follows a group of short options. -/
def followGroup (level : Level) : List Char → Given → Except Interruption Given
  | [], g => .ok g
  | c :: rest, g =>
    match level.short? c with
    | none => .error (.fault .unknownArgument)
    | some (.takes slot) => g.follow level (.takes slot) (attachedTo rest)
    | some switch => do
      followGroup level rest (← g.follow level switch none)

/-- Takes a word as the path, where there can still be one. -/
def takePath (level : Level) (g : Given) (word : String) : Except Interruption Given :=
  match level with
  | .check =>
    if g.hasPath then .error (.fault .unknownArgument)
    else do
      return { ← g.settle with pending := some (.path, some word) }
  | .root =>
    if g.onlyWords ∧ (word = "check" ∨ word = "help") then .error (.fault .unknownArgument)
    else .error (.fault .invalidSubcommand)

/-- Reads one word. -/
def read (level : Level) (g : Given) (word : String) : Except Interruption Given :=
  if g.onlyWords then g.takePath level word
  else
    match Word.of word.toList with
    | .escape => .ok { g with onlyWords := true }
    | .long name value =>
      match level.long? name with
      | some switch => g.follow level switch (value.map String.ofList)
      | none => .error (.fault .unknownArgument)
    | .short group => g.followGroup level group
    | .plain =>
      match g.pending with
      | some (slot, none) => .ok { g with pending := some (slot, some word) }
      | _ => g.takePath level word

/-- The end of a level: what is pending is settled, and a value from the environment has to fit if the
level gives no other. -/
def finish (g : Given) (environment : Option String) : Except Interruption Given := do
  let g ← g.settle
  if (g.value? .config).isNone && environment = some "" then .error (.fault .invalidValue)
  else if g.has .color && g.has .noColor then .error (.fault .argumentConflict)
  else return g

end Given

/-! ### The whole command line -/

/-- What the command is asked to do. -/
structure CheckArguments where
  path : Option Path
  output : OutputFormat
  json : Option Path
  srcDirs : Option String
  autoCommit : Bool
  color : Bool
  noColor : Bool

/-- A command line: the path of a configuration, and the command. -/
structure Arguments where
  config : Option Path
  check : Option CheckArguments

namespace CheckArguments

/-- What has been given behind the command. -/
def ofGiven (g : Given) : CheckArguments where
  path := (g.value? .path).map Path.mk
  output := ((g.value? .output).bind OutputFormat.ofLabel?).getD .text
  json := (g.value? .json).map Path.mk
  srcDirs := g.value? .srcDirs
  autoCommit := g.has .autoCommit
  color := g.has .color
  noColor := g.has .noColor

/-- What the options say about colour. -/
def colourMode (a : CheckArguments) : ColourMode :=
  if a.noColor then .never else if a.color then .always else .auto

/-- The configuration with what the options say instead. -/
def override (a : CheckArguments) (c : Config) : Config :=
  (c.withSrcDirs a.srcDirs).withAutoCommit a.autoCommit

end CheckArguments

namespace Arguments

/-- The answer to a question for help on a command. -/
def helpOn (words : List String) : Interruption :=
  match words with
  | [] => .help .root
  | ["check"] => .help .check
  | ["help"] => .help .root
  | _ => .fault .invalidSubcommand

/-- Reads words before the command; gives those behind it, if there is one. -/
def readRoot : List String → Given → Except Interruption (Given × Option (List String))
  | [], g => .ok (g, none)
  | word :: rest, g =>
    if !g.onlyWords && !g.awaits && word = "check" then .ok (g, some rest)
    else if !g.onlyWords && !g.awaits && word = "help" then .error (helpOn rest)
    else do
      readRoot rest (← g.read .root word)

/-- Reads a command line; the path of a configuration can come from the environment. -/
def parse (words : List String) (environment : Option String) : Except Interruption Arguments := do
  let (root, behind) ← readRoot words .nothing
  match behind with
  | none =>
    let root ← root.finish environment
    return ⟨((root.value? .config).or environment).map Path.mk, none⟩
  | some rest =>
    let check ← rest.foldlM (Given.read .check) .nothing
    let check ← check.finish environment
    let root ← root.finish environment
    let config := ((check.value? .config).or (root.value? .config)).or environment
    return ⟨config.map Path.mk, some (.ofGiven check)⟩

end Arguments

end QualityGate
