/-
Printing of JSON values over several lines, two blanks for each level.

Empty arrays and objects stay on one line.  In a string the quote, the backslash and the control
characters are escaped, by their short forms where they have one, and nothing else.
-/
import QualityGate.Json.Value

namespace QualityGate.Json

/-- One hexadecimal digit, in lower case. -/
def hexDigit (n : Nat) : Char :=
  if n < 10 then Char.ofNat ('0'.toNat + n) else Char.ofNat ('a'.toNat + (n - 10))

/-- One character as it stands in a string. -/
def escapeChar (c : Char) : List Char :=
  if c = '\"' then ['\\', '\"']
  else if c = '\\' then ['\\', '\\']
  else if c = '\n' then ['\\', 'n']
  else if c = '\r' then ['\\', 'r']
  else if c = '\t' then ['\\', 't']
  else if c = '\x08' then ['\\', 'b']
  else if c = '\x0c' then ['\\', 'f']
  else if c.toNat < 0x20 then ['\\', 'u', '0', '0', hexDigit (c.toNat / 16), hexDigit (c.toNat % 16)]
  else [c]

/-- The text as a JSON string. -/
def quote (s : List Char) : List Char :=
  '\"' :: s.flatMap escapeChar ++ ['\"']

/-- A line end and the blanks that the next line starts with. -/
def newLine (depth : Nat) : List Char :=
  '\n' :: List.replicate (2 * depth) ' '

/-- Items between brackets, one on each line. -/
def bracketed (opening closing : Char) (depth : Nat) (items : List (List Char)) : List Char :=
  match items with
  | [] => [opening, closing]
  | first :: others =>
    opening :: newLine (depth + 1) ++ first ++
      others.flatMap (fun item => ',' :: newLine (depth + 1) ++ item) ++ newLine depth ++ [closing]

mutual

/-- The value as it is printed at the given depth. -/
def print (depth : Nat) : Json → List Char
  | .null => "null".toList
  | .bool true => "true".toList
  | .bool false => "false".toList
  | .number literal => literal.toList
  | .string text => quote (text.getD "").toList
  | .array items => bracketed '[' ']' depth (printItems (depth + 1) items)
  | .object members => bracketed '\x7b' '\x7d' depth (printMembers (depth + 1) members)

/-- The items of an array, each as it is printed. -/
def printItems (depth : Nat) : List Json → List (List Char)
  | [] => []
  | item :: rest => print depth item :: printItems depth rest

/-- The members of an object, each as it is printed. -/
def printMembers (depth : Nat) : List (Option String × Json) → List (List Char)
  | [] => []
  | (name, value) :: rest =>
    (quote (name.getD "").toList ++ ':' :: ' ' :: print depth value) :: printMembers depth rest

end

/-- The value as a document. -/
def render (value : Json) : List Char :=
  print 0 value

end QualityGate.Json
