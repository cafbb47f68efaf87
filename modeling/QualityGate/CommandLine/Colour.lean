/-
When the command paints its summary: an option decides, else the environment, and without a terminal
there is no colour.  Where nothing else decides, the name of the terminal does.
-/
import QualityGate.Report.Style

namespace QualityGate

/-- What the options say about colour. -/
inductive ColourMode where
  | always
  | never
  | auto
  deriving DecidableEq

/-- Variables of the environment. -/
abbrev Environment := List (String × String)

namespace Environment

/-- The value of a variable. -/
def get? (env : Environment) (name : String) : Option String :=
  (env.find? fun v => v.1 = name).map fun v => v.2

/-- The variable is set, to whatever value. -/
def has (env : Environment) (name : String) : Bool :=
  (env.get? name).isSome

/-- The terminal has a name, and not that of one that takes no escape sequences. -/
def takesColour (env : Environment) : Bool :=
  (env.get? "TERM").any fun terminal => terminal ≠ "dumb"

end Environment

/-- Whether to paint, from the options, the environment, and whether output goes to a terminal. -/
def ColourMode.resolve (mode : ColourMode) (env : Environment) (terminal : Bool) : ColourChoice :=
  match mode with
  | .always => .always
  | .never => .never
  | .auto =>
    if env.has "NO_COLOR" then .never
    else if env.has "COLOR" then .always
    else if !terminal || env.has "CI" then .never
    else .auto

end QualityGate
