/-
Values and lines of TOML documents.

Arrays and inline tables can stand inside each other to a depth below the limit.  A line is empty, or
a header of a table or of an element of an array of tables, or gives a key its value.
-/
import QualityGate.Toml.Draft
import QualityGate.Toml.Number

namespace QualityGate.Toml

/-- Items with commas between them up to the closing bracket; the last comma can stand alone. -/
def readItems? (item : List Char → Read Toml) : Nat → List Char → Read (List Toml)
  | 0, _ => none
  | bound + 1, s =>
    match skipLines s with
    | ']' :: rest => some ([], rest)
    | start =>
      match item start with
      | none => none
      | some (value, rest) =>
        match skipLines rest with
        | ',' :: more => (readItems? item bound more).map fun r => (value :: r.1, r.2)
        | ']' :: behind => some ([value], behind)
        | _ => none

/-- A key, an equals sign and a value, blanks around them skipped. -/
def readPair? (item : List Char → Read Toml) (s : List Char) : Read (List String × Toml) :=
  match readKey? s with
  | some (key, '=' :: rest) =>
    (item (skipSpace rest)).map fun r => ((key, r.1), skipSpace r.2)
  | _ => none

/-- Pairs with commas between them up to the closing brace. -/
def readPairs? (item : List Char → Read Toml) : Nat → List Char → Read (List (List String × Toml))
  | 0, _ => none
  | bound + 1, s =>
    match readPair? item s with
    | some (pair, ',' :: more) => (readPairs? item bound more).map fun r => (pair :: r.1, r.2)
    | some (pair, '\x7d' :: behind) => some ([pair], behind)
    | _ => none

/-- The table of an inline table, behind its opening brace. -/
def readInline? (item : List Char → Read Toml) (s : List Char) : Read Toml :=
  match skipSpace s with
  | '\x7d' :: rest => some (.table [], rest)
  | start =>
    match readPairs? item (start.length + 1) start with
    | some (pairs, rest) =>
      (pairs.foldlM (fun (draft : Draft) pair => draft.define? pair.1 pair.2) .empty).map fun draft =>
        (draft.toToml, rest)
    | none => none

/-- A value; `room` more arrays and inline tables can stand inside each other. -/
def readValue? (room : Nat) (s : List Char) : Read Toml :=
  match s with
  | '\"' :: _ | '\'' :: _ => (readString? s).map fun r => (.string r.1, r.2)
  | '[' :: rest =>
    match room with
    | 0 => none
    | room + 1 =>
      (readItems? (readValue? room) (rest.length + 1) rest).map fun r => (.array r.1, r.2)
  | '\x7b' :: rest =>
    match room with
    | 0 => none
    | room + 1 => readInline? (readValue? room) rest
  | _ =>
    match Text.after? "true".toList s, Text.after? "false".toList s with
    | some rest, _ => some (.boolean true, rest)
    | none, some rest => some (.boolean false, rest)
    | none, none => readNumber? s

/-- A line of a document. -/
inductive Line where
  | empty
  | tableHeader (key : List String)
  | arrayHeader (key : List String)
  | entry (key : List String) (value : Toml)

/-- What a line says, without the comment and the line end behind it. -/
def readStatement? (s : List Char) : Read Line :=
  match s with
  | '[' :: '[' :: rest =>
    match readKey? rest with
    | some (key, ']' :: ']' :: behind) => some (.arrayHeader key, behind)
    | _ => none
  | '[' :: rest =>
    match readKey? rest with
    | some (key, ']' :: behind) => some (.tableHeader key, behind)
    | _ => none
  | [] | '#' :: _ | '\n' :: _ | '\r' :: _ => some (.empty, s)
  | _ => (readPair? (readValue? (depthLimit - 1)) s).map fun r => (.entry r.1.1 r.1.2, r.2)

/-- The lines of a text, at most `bound` of them. -/
def readLines? : Nat → List Char → Option (List Line)
  | 0, _ => none
  | bound + 1, s =>
    match readStatement? (skipSpace s) with
    | none => none
    | some (line, rest) =>
      match skipComment (skipSpace rest) with
      | [] => some [line]
      | behind =>
        match afterNewline? behind with
        | some more => (readLines? bound more).map (line :: ·)
        | none => none

/-- The text without the mark of its byte order. -/
def withoutMark (s : List Char) : List Char :=
  match s with
  | '\ufeff' :: rest => rest
  | _ => s

/-- The lines of a document. -/
def linesOf? (s : List Char) : Option (List Line) :=
  readLines? (s.length + 1) (withoutMark s)

end QualityGate.Toml
