/-
What is printed reads as it was.

A value that can be printed holds strings wherever a string can stand, and number literals of the
standard (`IsPrintable`).  Its text is one of those that spell it (`spells_print`), so the document of
such a value denotes it (`parse?_render`).
-/
import QualityGate.Proofs.Json.Grammar

namespace QualityGate.Json

variable {depth : Nat} {rest : List Char}

/-! ### Values that can be printed -/

mutual

/-- The value has a text. -/
def IsPrintable : Json → Prop
  | .null => True
  | .bool _ => True
  | .number literal => IsNumeral literal.toList
  | .string text => text.isSome = true
  | .array items => ArePrintable items
  | .object members => MembersArePrintable members

/-- All items have a text. -/
def ArePrintable : List Json → Prop
  | [] => True
  | item :: rest => IsPrintable item ∧ ArePrintable rest

/-- All members have a name and a text. -/
def MembersArePrintable : List (Option String × Json) → Prop
  | [] => True
  | (name, value) :: rest => name.isSome = true ∧ IsPrintable value ∧ MembersArePrintable rest

end

/-- Printable items, one by one. -/
theorem arePrintable_iff {items : List Json} :
    ArePrintable items ↔ ∀ item ∈ items, IsPrintable item := by
  induction items with
  | nil => simp [ArePrintable]
  | cons item rest ih => rw [ArePrintable, ih, List.forall_mem_cons]

/-- Printable members, one by one. -/
theorem membersArePrintable_iff {members : List (Option String × Json)} :
    MembersArePrintable members ↔ ∀ m ∈ members, m.1.isSome = true ∧ IsPrintable m.2 := by
  induction members with
  | nil => simp [MembersArePrintable]
  | cons m rest ih => rw [MembersArePrintable, ih, List.forall_mem_cons, and_assoc]

/-! ### Texts in brackets -/

theorem isSpaces_newLine (depth : Nat) : IsSpaces (newLine depth) := by
  intro c hc
  rcases List.mem_cons.1 hc with rfl | hc
  · exact .inr (.inr (.inl rfl))
  · exact .inl (List.eq_of_mem_replicate hc)

/-- What stands between the brackets around items. -/
def between (depth : Nat) : List (List Char) → List Char
  | [] => []
  | [item] => newLine (depth + 1) ++ (item ++ newLine depth)
  | item :: next :: items => newLine (depth + 1) ++ (item ++ ',' :: between depth (next :: items))

theorem between_cons (depth : Nat) (item : List Char) (items : List (List Char)) :
    between depth (item :: items) = newLine (depth + 1) ++ (item ++
      (items.flatMap (fun item => ',' :: newLine (depth + 1) ++ item) ++ newLine depth)) := by
  induction items generalizing item with
  | nil => rfl
  | cons next items ih =>
    rw [between, ih next]
    simp

theorem bracketed_cons (opening closing : Char) (depth : Nat) (item : List Char)
    (items : List (List Char)) : bracketed opening closing depth (item :: items) =
      opening :: (between depth (item :: items) ++ [closing]) := by
  simp [bracketed, between_cons]

/-- The text of a member. -/
def memberText (name : String) (value : List Char) : List Char :=
  quote name.toList ++ ':' :: ' ' :: value

theorem printMembers_cons (depth : Nat) (name : String) (value : Json)
    (members : List (Option String × Json)) :
    printMembers depth ((some name, value) :: members) =
      memberText name (print depth value) :: printMembers depth members := rfl

/-- The name of a member stands on a line of its own. -/
theorem spellsName_newLine (depth : Nat) (name : String) :
    SpellsName (newLine depth ++ quote name.toList) (some name) := by
  rw [quote, List.cons_append]
  exact .intro (isSpaces_newLine depth) (spellsString_escaped name) .nil

/-- One blank stands between a name's colon and the value. -/
theorem isSpaces_blank : IsSpaces [' '] :=
  List.forall_mem_singleton.2 (.inl rfl)

theorem newLine_memberText_append (depth : Nat) (name : String) (value rest : List Char) :
    newLine depth ++ (memberText name value ++ rest) =
      newLine depth ++ quote name.toList ++ ':' :: ([' '] ++ (value ++ rest)) := by
  simp [memberText]

/-! ### The round trip -/

mutual

/-- What is printed spells the value. -/
theorem spells_print : ∀ {value : Json} (depth : Nat), IsPrintable value →
    Spells (print depth value) value
  | .null, depth, _ => .null
  | .bool true, depth, _ => .boolTrue
  | .bool false, depth, _ => .boolFalse
  | .number literal, depth, hprint => by
    rw [IsPrintable] at hprint
    have hspells := Spells.number hprint.isNumber
    rwa [String.ofList_toList] at hspells
  -- a string that stands for no text is not printed
  | .string none, depth, hprint => by
    simp [IsPrintable] at hprint
  | .string (some text), depth, _ => .string (spellsString_escaped text)
  | .array [], depth, _ => .noItems .nil
  | .array (item :: items), depth, hprint => by
    rw [IsPrintable] at hprint
    rw [print, printItems, bracketed_cons]
    exact .array (spellsItems_print depth hprint (List.cons_ne_nil item items))
  | .object [], depth, _ => .noMembers .nil
  | .object ((none, value) :: members), depth, hprint => by
    simp [IsPrintable, MembersArePrintable] at hprint
  | .object ((some name, value) :: members), depth, hprint => by
    rw [IsPrintable] at hprint
    rw [print, printMembers_cons, bracketed_cons]
    exact .object (spellsMembers_print depth hprint (List.cons_ne_nil _ members))

/-- What is printed between brackets spells the items. -/
theorem spellsItems_print : ∀ {items : List Json} (depth : Nat), ArePrintable items → items ≠ [] →
    SpellsItems (between depth (printItems (depth + 1) items)) items
  | [], depth, _, hne => absurd rfl hne
  | [item], depth, hprint, _ => by
    rw [ArePrintable] at hprint
    exact .last (.intro (isSpaces_newLine _) (spells_print _ hprint.1) (isSpaces_newLine _))
  | item :: next :: items, depth, hprint, _ => by
    rw [ArePrintable] at hprint
    have hitem := SpellsPadded.intro (isSpaces_newLine (depth + 1))
      (spells_print (depth + 1) hprint.1) .nil
    have hmore := SpellsItems.more hitem
      (spellsItems_print depth hprint.2 (List.cons_ne_nil next items))
    rwa [List.append_nil, List.append_assoc] at hmore

/-- What is printed between braces spells the members. -/
theorem spellsMembers_print : ∀ {members : List (Option String × Json)} (depth : Nat),
    MembersArePrintable members → members ≠ [] →
    SpellsMembers (between depth (printMembers (depth + 1) members)) members
  | [], depth, _, hne => absurd rfl hne
  | (none, value) :: members, depth, hprint, _ => by
    simp [MembersArePrintable] at hprint
  | [(some name, value)], depth, hprint, _ => by
    rw [MembersArePrintable] at hprint
    rw [printMembers_cons, printMembers, between, newLine_memberText_append]
    exact .last (spellsName_newLine _ name)
      (.intro isSpaces_blank (spells_print _ hprint.2.1) (isSpaces_newLine _))
  | (some name, value) :: next :: members, depth, hprint, _ => by
    rw [MembersArePrintable] at hprint
    have hvalue := SpellsPadded.intro isSpaces_blank (spells_print (depth + 1) hprint.2.1) .nil
    have hmore := SpellsMembers.more (spellsName_newLine (depth + 1) name) hvalue
      (spellsMembers_print depth hprint.2.2 (List.cons_ne_nil next members))
    rwa [List.append_nil, List.append_assoc [' '], ← newLine_memberText_append] at hmore

end

/-- The text of a value that can be printed denotes it, also with blanks behind it. -/
theorem parse?_render_append {value : Json} (h : IsPrintable value) (hspaces : IsSpaces rest) :
    parse? (render value ++ rest) = some value :=
  parse?_of_spells (.intro .nil (spells_print 0 h) hspaces)

/-- The text of a value that can be printed denotes it. -/
theorem parse?_render {value : Json} (h : IsPrintable value) : parse? (render value) = some value := by
  have hparse := parse?_render_append h .nil
  rwa [List.append_nil] at hparse

end QualityGate.Json
