/-
Cutting a text at a separator, at a word, and at line ends.

`splitOn` keeps empty pieces, so joining the pieces gives the text back.  `lines` cuts after every
line feed; one carriage return before a line feed belongs to the line end, and a last line that no
line feed ends is kept as it stands.
-/

namespace QualityGate.Text

/-- First piece and remaining pieces of a text cut at every `sep`. -/
def cut (sep : Char) (s : List Char) : List Char × List (List Char) :=
  s.foldr (fun c r => if c = sep then ([], r.1 :: r.2) else (c :: r.1, r.2)) ([], [])

/-- The pieces of a text between the separators, empty ones included. -/
def splitOn (sep : Char) (s : List Char) : List (List Char) :=
  (cut sep s).1 :: (cut sep s).2

/-- A line without the carriage return that ends it. -/
def dropReturn (line : List Char) : List Char :=
  if line.getLast? = some '\r' then line.dropLast else line

/-- The lines of a text, without their line ends. -/
def lines (s : List Char) : List (List Char) :=
  let pieces := splitOn '\n' s
  let closed := pieces.dropLast.map dropReturn
  match pieces.getLast? with
  | some (c :: rest) => closed ++ [c :: rest]
  | _ => closed

/-- What follows `word`, if the text starts with it. -/
def after? : List Char → List Char → Option (List Char)
  | [], s => some s
  | _ :: _, [] => none
  | w :: word, c :: s => if w = c then after? word s else none

/-- What stands before and after the first occurrence of `word`. -/
def around? (word : List Char) : List Char → Option (List Char × List Char)
  | [] => (after? word []).map fun rest => ([], rest)
  | c :: s =>
    match after? word (c :: s) with
    | some rest => some ([], rest)
    | none => (around? word s).map fun r => (c :: r.1, r.2)

/-- The text starts with `word`. -/
def startsWith (word s : List Char) : Bool :=
  (after? word s).isSome

/-- The text ends with `word`. -/
def endsWith (word s : List Char) : Bool :=
  (after? word.reverse s.reverse).isSome

/-- The text holds `word` as a contiguous part. -/
def contains (word s : List Char) : Bool :=
  (around? word s).isSome

/-- The pieces with `sep` between them. -/
def joinWith (sep : List Char) : List (List Char) → List Char
  | [] => []
  | [piece] => piece
  | piece :: next :: rest => piece ++ sep ++ joinWith sep (next :: rest)

/-! ### Basic lemmas -/

theorem cut_cons (sep c : Char) (s : List Char) :
    cut sep (c :: s) =
      if c = sep then ([], (cut sep s).1 :: (cut sep s).2) else (c :: (cut sep s).1, (cut sep s).2) :=
  rfl

@[simp] theorem splitOn_nil (sep : Char) : splitOn sep [] = [[]] := rfl

@[simp] theorem after?_nil (s : List Char) : after? [] s = some s := by
  cases s <;> rfl

theorem eq_append_of_after? {word s rest : List Char} (h : after? word s = some rest) :
    s = word ++ rest := by
  induction word generalizing s with
  | nil => simpa using h
  | cons w word ih =>
    cases s with
    | nil => simp [after?] at h
    | cons c s =>
      simp only [after?] at h
      split at h
      · next hc => rw [hc, ih h, List.cons_append]
      · simp at h

theorem eq_append_of_around? {word s before rest : List Char}
    (h : around? word s = some (before, rest)) : s = before ++ word ++ rest := by
  induction s generalizing before rest with
  | nil =>
    obtain ⟨r, hr, he⟩ := Option.map_eq_some_iff.1 h
    obtain ⟨rfl, rfl⟩ := Prod.mk.inj he
    exact eq_append_of_after? hr
  | cons c s ih =>
    unfold around? at h
    split at h
    · next r hr =>
      obtain ⟨rfl, rfl⟩ := Prod.mk.inj (Option.some.inj h)
      exact eq_append_of_after? hr
    · obtain ⟨⟨b, r⟩, hr, he⟩ := Option.map_eq_some_iff.1 h
      obtain ⟨rfl, rfl⟩ := Prod.mk.inj he
      rw [ih hr]
      rfl

end QualityGate.Text
