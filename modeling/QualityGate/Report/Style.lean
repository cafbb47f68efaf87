/-
Styled text: spans with a pen, painted with or without escape sequences.

A painted span resets the terminal, sets the pen's attributes, and resets again behind its text, so
the text of a span never colours what follows it.  Without colour a span is its text.
-/

namespace QualityGate

/-- The colours in use. -/
inductive Colour where
  | red
  | green
  | yellow
  | cyan
  deriving DecidableEq

/-- The attributes of a span. -/
structure Pen where
  colour : Option Colour
  bold : Bool
  dimmed : Bool
  deriving DecidableEq

/-- A piece of a styled text. -/
inductive Span where
  | plain (text : String)
  | styled (pen : Pen) (text : String)
  deriving DecidableEq

/-- When a styled text is painted with escape sequences. -/
inductive ColourChoice where
  | always
  | never
  | auto
  deriving DecidableEq

namespace Pen

/-- The code of a colour. -/
def colourCode : Colour → String
  | .red => "31"
  | .green => "32"
  | .yellow => "33"
  | .cyan => "36"

/-- An escape sequence that sets one attribute. -/
def escape (code : String) : String :=
  "\x1b[" ++ code ++ "m"

/-- The sequence that ends all attributes. -/
def reset : String :=
  escape "0"

/-- The sequences that set the pen's attributes. -/
def start (p : Pen) : String :=
  reset ++ (if p.bold then escape "1" else "") ++ (if p.dimmed then escape "2" else "") ++
    match p.colour with
    | some c => escape (colourCode c)
    | none => ""

/-- Headings. -/
def heading : Pen := ⟨some .cyan, true, false⟩

/-- Names of checks. -/
def checkName : Pen := ⟨none, true, false⟩

/-- What passed. -/
def pass : Pen := ⟨some .green, true, false⟩

/-- What failed. -/
def fail : Pen := ⟨some .red, true, false⟩

/-- What was skipped. -/
def skip : Pen := ⟨some .yellow, true, false⟩

/-- Lines of details. -/
def details : Pen := ⟨none, false, true⟩

end Pen

namespace Span

/-- The span as it is written to a terminal. -/
def paint (colour : Bool) : Span → String
  | .plain text => text
  | .styled pen text => if colour then pen.start ++ text ++ Pen.reset else text

/-- The spans as they are written to a terminal. -/
def paintAll (colour : Bool) (spans : List Span) : String :=
  String.join (spans.map (paint colour))

end Span

end QualityGate
