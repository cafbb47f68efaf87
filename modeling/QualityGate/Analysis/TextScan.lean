/-
Names in a text that is no valid Python.

Blocks between triple quotes and comments are dropped first.  Then the text is searched from left to
right for a class, for a function, and for an assignment; a search goes on behind the text of a match.
A word of prose names no class and no function, since what remains of the text can be prose.
-/
import QualityGate.Analysis.Convention
import QualityGate.Text.Blank

namespace QualityGate

namespace TextScan

/-- Three quotes. -/
def tripleQuote (quote : Char) : List Char :=
  [quote, quote, quote]

/-- The text without the blocks between triple quotes; a block without an end is kept. -/
def dropBlocks (quote : Char) (s : List Char) : List Char :=
  match _h : Text.around? (tripleQuote quote) s with
  | none => s
  | some (before, inside) =>
    match _h' : Text.around? (tripleQuote quote) inside with
    | none => s
    | some (_, rest) => before ++ dropBlocks quote rest
termination_by s.length
decreasing_by
  have h := congrArg List.length (Text.eq_append_of_around? _h)
  have h' := congrArg List.length (Text.eq_append_of_around? _h')
  simp only [tripleQuote, List.length_append, List.length_cons, List.length_nil] at h h'
  omega

/-- The text without its comments. -/
def dropComments (s : List Char) : List Char :=
  Text.joinWith ['\n'] ((Text.splitOn '\n' s).map fun line => line.takeWhile (· ≠ '#'))

/-- The text that is searched. -/
def stripped (s : List Char) : List Char :=
  dropComments (dropBlocks '\'' (dropBlocks '\"' s))

/-- A character of a name. -/
def isNameChar (c : Char) : Bool :=
  Naming.isSmall c || Naming.isCapital c || Naming.isNumeral c || c == '_'

/-- A character that ends the name of a class or function. -/
def endsName (c : Char) : Bool :=
  Text.isBlank c || c == '(' || c == ':'

/-- A name and the number of characters of the match that it stands in. -/
structure Match where
  name : List Char
  length : Nat

/-- A keyword, blanks, a name, and what ends it. -/
def declaration? (keyword s : List Char) : Option Match :=
  match Text.after? keyword s with
  | none => none
  | some rest =>
    let blanks := rest.takeWhile Text.isBlank
    let start := rest.dropWhile Text.isBlank
    let name := start.takeWhile isNameChar
    match start.dropWhile isNameChar with
    | c :: _ =>
      if blanks ≠ [] ∧ name ≠ [] ∧ endsName c then
        some ⟨name, keyword.length + blanks.length + name.length + 1⟩
      else none
    | [] => none

/-- A name that starts with a letter, blanks, and an equals sign. -/
def assignment? (s : List Char) : Option Match :=
  match s with
  | [] => none
  | c :: _ =>
    let name := s.takeWhile isNameChar
    let rest := s.dropWhile isNameChar
    if Naming.isSmall c || Naming.isCapital c then
      match rest.dropWhile Text.isBlank with
      | '=' :: _ => some ⟨name, name.length + (rest.takeWhile Text.isBlank).length + 1⟩
      | _ => none
    else none

/-- The names of all matches from left to right; the first `skip` characters belong to the match
before. -/
def search (match? : List Char → Option Match) : Nat → List Char → List (List Char)
  | _, [] => []
  | skip + 1, _ :: s => search match? skip s
  | 0, c :: s =>
    match match? (c :: s) with
    | some m => m.name :: search match? (m.length - 1) s
    | none => search match? 0 s

/-- The names that a search finds, in their role. -/
def found (role : Naming.Role) (match? : List Char → Option Match) (s : List Char) :
    List (Naming.Role × String) :=
  (search match? 0 s).map fun name => (role, String.ofList name)

/-- The names that are declared in a text: classes, then functions, then assigned names. -/
def names (s : List Char) : List (Naming.Role × String) :=
  let s := stripped s
  let declared := found .classDef (declaration? "class".toList) s ++
    found .function (declaration? "def".toList) s
  (declared.filter fun n => !Naming.isProse n.2) ++ found .variable assignment? s

end TextScan

end QualityGate
