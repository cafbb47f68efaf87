/-
The conventions as languages.

The names that a role allows are given by languages over characters, put together from single characters
and fixed words by union, concatenation and iteration.  A name breaks no convention exactly if it is in
the language of its role (`conventions_are_languages`).

For an assigned name the language is a plain union: words that are no names, names of functions, and
names of constants.  No name of a function looks like a constant, and every name of a constant does, so
the question which of the two a name looks like cannot change whether it is allowed; it only decides
which convention a name is blamed with.
-/
import Mathlib.Computability.Language
import QualityGate.Analysis.Convention
import QualityGate.Proofs.Text.Casing
import QualityGate.Proofs.Text.Occurrence

namespace QualityGate.Naming

open scoped Computability

/-! ### Languages -/

/-- One character of a class. -/
def oneOf (p : Char → Bool) : Language Char :=
  {s | ∃ c, p c = true ∧ s = [c]}

/-- A word and nothing else. -/
def only (word : String) : Language Char :=
  {s | s = word.toList}

/-- The pattern `[a-z][a-z0-9_]*`. -/
def snakeCase : Language Char :=
  oneOf isSmall * (oneOf fun c => isSmall c || isNumeral c || c == '_')∗

/-- The pattern `[A-Z][a-zA-Z0-9]*`. -/
def pascalCase : Language Char :=
  oneOf isCapital * (oneOf fun c => isSmall c || isCapital c || isNumeral c)∗

/-- The pattern `[A-Z][A-Z0-9_]*`. -/
def upperCase : Language Char :=
  oneOf isCapital * (oneOf fun c => isCapital c || isNumeral c || c == '_')∗

/-- Names of functions: snake case, `_`, snake case behind `_`, snake case between two `__`, and Pascal
case behind `visit_`. -/
def functionNames : Language Char :=
  snakeCase + only "_" + only "_" * snakeCase + only "__" * snakeCase * only "__" +
    only "visit_" * pascalCase

/-- The words of a list. -/
def among (words : List String) : Language Char :=
  {s | ∃ word ∈ words, s = word.toList}

/-- The words of a list in any letter case. -/
def variantsOf (words : List String) : Language Char :=
  {s | ∃ word ∈ words, Text.IsCaseVariant word.toList s}

/-- Texts that start with a word and end with it, where the two may overlap. -/
def framedBy (word : String) : Language Char :=
  {s | word.toList <+: s ∧ word.toList <:+ s}

/-- The names that a role allows. -/
def allowed : Role → Language Char
  | .module => snakeCase + framedBy "__"
  | .classDef => pascalCase
  | .function => functionNames
  | .variable => among reserved + variantsOf proseWords + functionNames + upperCase

variable {p q : Char → Bool} {s : List Char} {L : Language Char} {name word : String}

theorem mem_oneOf_mul : s ∈ oneOf p * L ↔ ∃ c, p c = true ∧ ∃ rest ∈ L, s = c :: rest := by
  rw [Language.mem_mul]
  constructor
  · rintro ⟨-, ⟨c, hc, rfl⟩, rest, hrest, rfl⟩
    exact ⟨c, hc, rest, hrest, rfl⟩
  · rintro ⟨c, hc, rest, hrest, rfl⟩
    exact ⟨[c], ⟨c, hc, rfl⟩, rest, hrest, rfl⟩

theorem mem_only_mul : s ∈ only word * L ↔ ∃ rest ∈ L, s = word.toList ++ rest := by
  rw [Language.mem_mul]
  constructor
  · rintro ⟨-, rfl, rest, hrest, rfl⟩
    exact ⟨rest, hrest, rfl⟩
  · rintro ⟨rest, hrest, rfl⟩
    exact ⟨word.toList, rfl, rest, hrest, rfl⟩

theorem mem_mul_only : s ∈ L * only word ↔ ∃ front ∈ L, s = front ++ word.toList := by
  rw [Language.mem_mul]
  constructor
  · rintro ⟨front, hfront, -, rfl, rfl⟩
    exact ⟨front, hfront, rfl⟩
  · rintro ⟨front, hfront, rfl⟩
    exact ⟨front, hfront, word.toList, rfl, rfl⟩

/-- Any number of characters of a class is a text of that class. -/
theorem mem_kstar_oneOf : s ∈ (oneOf q)∗ ↔ s.all q = true := by
  rw [Language.mem_kstar, List.all_eq_true]
  constructor
  · rintro ⟨pieces, rfl, hpieces⟩ c hc
    obtain ⟨piece, hpiece, hmem⟩ := List.mem_flatten.1 hc
    obtain ⟨d, hd, rfl⟩ := hpieces piece hpiece
    rwa [List.mem_singleton.1 hmem]
  · intro hall
    -- each character is a word of its own
    refine ⟨s.map fun c => [c], ?_, ?_⟩
    · rw [← List.flatMap_def, List.flatMap_singleton']
    · intro piece hpiece
      obtain ⟨c, hc, rfl⟩ := List.mem_map.1 hpiece
      exact ⟨c, hall c hc, rfl⟩

/-- A character of one class, and behind it only characters of another. -/
theorem mem_oneOf_mul_kstar :
    s ∈ oneOf p * (oneOf q)∗ ↔ ∃ c rest, s = c :: rest ∧ (p c && rest.all q) = true := by
  rw [mem_oneOf_mul]
  simp only [mem_kstar_oneOf, Bool.and_eq_true]
  constructor
  · rintro ⟨c, hc, rest, hrest, rfl⟩
    exact ⟨c, rest, rfl, hc, hrest⟩
  · rintro ⟨c, rest, rfl, hc, hrest⟩
    exact ⟨c, hc, rest, hrest, rfl⟩

/-! ### Shapes of names -/

/-- The test of small letters, digits and underscores accepts the language of that name. -/
theorem isSnake_iff : isSnake s = true ↔ s ∈ snakeCase := by
  rw [snakeCase, mem_oneOf_mul_kstar]
  cases s <;> simp [isSnake]

theorem isPascal_iff : isPascal s = true ↔ s ∈ pascalCase := by
  rw [pascalCase, mem_oneOf_mul_kstar]
  cases s <;> simp [isPascal]

theorem isConstant_iff : isConstant s = true ↔ s ∈ upperCase := by
  rw [upperCase, mem_oneOf_mul_kstar]
  cases s <;> simp [isConstant]

theorem isVisitor_iff : isVisitor s = true ↔ s ∈ only "visit_" * pascalCase := by
  rw [mem_only_mul, isVisitor]
  simp only [← isPascal_iff, ← Text.after?_eq_some_iff]
  rcases Text.after? "visit_".toList s with - | rest <;> simp

/-- A private name is an underscore, alone or before a name in small letters. -/
theorem isPrivateSnake_iff : isPrivateSnake s = true ↔ s ∈ only "_" + only "_" * snakeCase := by
  rw [Language.mem_add, mem_only_mul]
  simp only [← isSnake_iff]
  constructor
  · intro h
    unfold isPrivateSnake at h
    split at h
    · next rest =>
      -- nothing stands behind the underscore, or a name does
      rcases Bool.or_eq_true_iff.1 h with hnil | hsnake
      · rw [List.isEmpty_iff.1 hnil]
        exact .inl rfl
      · exact .inr ⟨rest, hsnake, rfl⟩
    · cases h
  · rintro (rfl | ⟨rest, hsnake, rfl⟩)
    · rfl
    · exact Bool.or_eq_true_iff.2 (.inr hsnake)

/-- A name between double underscores: the test takes off both ends, the language puts them on. -/
theorem isDunder_iff : isDunder s = true ↔ s ∈ only "__" * snakeCase * only "__" := by
  rw [mul_assoc, mem_only_mul]
  simp only [mem_mul_only, ← isSnake_iff]
  constructor
  · intro h
    unfold isDunder at h
    split at h
    · next rest hrest =>
      obtain ⟨hends, hsnake⟩ := Bool.and_eq_true_iff.1 h
      obtain ⟨inner, rfl⟩ := Text.endsWith_iff.1 hends
      rw [List.length_append, List.length_cons, List.length_singleton, Nat.add_sub_cancel,
        List.take_left] at hsnake
      exact ⟨_, ⟨inner, hsnake, rfl⟩, Text.after?_eq_some_iff.1 hrest⟩
    · cases h
  · rintro ⟨-, ⟨inner, hsnake, rfl⟩, rfl⟩
    -- the two marks of a name that is put together are found again
    have hafter : Text.after? ['_', '_'] ("__".toList ++ (inner ++ "__".toList)) =
        some (inner ++ "__".toList) := Text.after?_append _ _
    have hends : Text.endsWith ['_', '_'] (inner ++ "__".toList) = true :=
      Text.endsWith_iff.2 ⟨inner, rfl⟩
    have hinner : (inner ++ "__".toList).take ((inner ++ "__".toList).length - 2) = inner := by
      rw [List.length_append]
      exact List.take_left
    rw [isDunder, hafter]
    simp only [hends, hinner, hsnake, Bool.and_self]

theorem isFunctionName_iff : isFunctionName s = true ↔ s ∈ functionNames := by
  simp only [isFunctionName, functionNames, Bool.or_eq_true, isDunder_iff, isVisitor_iff,
    isPrivateSnake_iff, isSnake_iff, Language.mem_add]
  tauto

theorem isModuleName_iff : isModuleName s = true ↔ s ∈ allowed .module := by
  rw [isModuleName, Bool.or_eq_true, Bool.and_eq_true, Text.startsWith_iff, Text.endsWith_iff,
    isSnake_iff, or_comm]
  rfl

/-! ### Words that are passed over -/

theorem contains_reserved_iff : reserved.contains name = true ↔ name.toList ∈ among reserved := by
  rw [List.contains_iff_mem]
  constructor
  · exact fun h => ⟨name, h, rfl⟩
  · rintro ⟨word, hword, heq⟩
    rwa [String.toList_inj.1 heq]

/-- A word of prose counts in any case of its letters. -/
theorem isProse_iff : isProse name = true ↔ name.toList ∈ variantsOf proseWords := by
  have hall : (proseWords.all fun word => word.toList.all Text.isPlainSmall) = true := by
    decide +kernel
  have hplain (word : String) (hword : word ∈ proseWords) (c : Char) (hc : c ∈ word.toList) :
      Text.isPlainSmall c = true :=
    List.all_eq_true.1 (List.all_eq_true.1 hall word hword) c hc
  -- lower-casing is undone only by changing the case, since the words are plain small letters
  have hlowered (word : String) (hword : word ∈ proseWords) :
      Text.lowered name = word ↔ Text.IsCaseVariant word.toList name.toList := by
    rw [← Text.lower_eq_iff (hplain word hword), Text.lowered, ← String.toList_inj,
      String.toList_ofList]
  rw [isProse, List.contains_iff_mem]
  constructor
  · intro h
    exact ⟨Text.lowered name, h, (hlowered _ h).1 rfl⟩
  · rintro ⟨word, hword, hvariant⟩
    rwa [(hlowered word hword).2 hvariant]

/-! ### What a name looks like -/

/-- A name is blamed as a constant if it has a capital and no small letter, in all scripts. -/
theorem looksConstant_iff :
    looksConstant s = true ↔ (∃ c ∈ s, Text.isUpper c = true) ∧ ∀ c ∈ s, Text.isLower c = false := by
  simp [looksConstant]

theorem isUpper_of_isCapital {c : Char} (h : isCapital c = true) : Text.isUpper c = true :=
  Bool.or_eq_true_iff.2 (.inl h)

theorem isLower_of_isSmall {c : Char} (h : isSmall c = true) : Text.isLower c = true :=
  Bool.or_eq_true_iff.2 (.inl h)

theorem toNat_lt_of_nameChar {c : Char}
    (h : (isSmall c || isCapital c || isNumeral c || c == '_') = true) : c.toNat < 0x80 := by
  simp only [isSmall, isCapital, isNumeral, Bool.or_eq_true, Bool.and_eq_true, decide_eq_true_eq,
    beq_iff_eq] at h
  rcases h with ((⟨-, hle⟩ | ⟨-, hle⟩) | ⟨-, hle⟩) | rfl
  · exact Nat.lt_of_le_of_lt (show c.toNat ≤ 'z'.toNat from hle) (by decide)
  · exact Nat.lt_of_le_of_lt (show c.toNat ≤ 'Z'.toNat from hle) (by decide)
  · exact Nat.lt_of_le_of_lt (show c.toNat ≤ '9'.toNat from hle) (by decide)
  · decide

theorem isLower_of_constantChar {c : Char} (h : (isCapital c || isNumeral c || c == '_') = true) :
    Text.isLower c = false := by
  have hascii : c.toNat < 0x80 := by
    apply toNat_lt_of_nameChar
    rw [Bool.or_assoc, Bool.or_assoc, ← Bool.or_assoc (isCapital c), h, Bool.or_true]
  exact Text.forall_ascii (P := fun c => (isCapital c || isNumeral c || c == '_') = true →
    Text.isLower c = false) (by decide +kernel) hascii h

/-- A name of a constant looks like one. -/
theorem looksConstant_of_isConstant (h : isConstant s = true) : looksConstant s = true := by
  obtain ⟨c, rest, rfl, hshape⟩ := mem_oneOf_mul_kstar.1 (isConstant_iff.1 h)
  obtain ⟨hc, hrest⟩ := Bool.and_eq_true_iff.1 hshape
  rw [looksConstant_iff, List.forall_mem_cons]
  refine ⟨⟨c, List.mem_cons_self, isUpper_of_isCapital hc⟩, isLower_of_constantChar ?_, ?_⟩
  · rw [hc]
    rfl
  · exact fun d hd => isLower_of_constantChar (List.all_eq_true.1 hrest d hd)

theorem exists_cons_of_isSnake (h : isSnake s = true) : ∃ c rest, s = c :: rest ∧ isSmall c = true := by
  obtain ⟨c, rest, heq, hshape⟩ := mem_oneOf_mul_kstar.1 (isSnake_iff.1 h)
  exact ⟨c, rest, heq, (Bool.and_eq_true_iff.1 hshape).1⟩

/-- A name of a function is an underscore, or has a small letter. -/
theorem exists_small_of_isFunctionName (h : isFunctionName s = true) :
    s = ['_'] ∨ ∃ c ∈ s, isSmall c = true := by
  simp only [isFunctionName, Bool.or_eq_true] at h
  -- each of the four forms has a small letter, the lone underscore excepted
  rcases h with ((hdunder | hvisitor) | hprivate) | hsnake
  · rw [isDunder_iff, mul_assoc, mem_only_mul] at hdunder
    obtain ⟨rest, hrest, rfl⟩ := hdunder
    obtain ⟨inner, hinner, rfl⟩ := mem_mul_only.1 hrest
    obtain ⟨c, more, rfl, hc⟩ := exists_cons_of_isSnake (isSnake_iff.2 hinner)
    exact .inr ⟨c, by simp, hc⟩
  · obtain ⟨rest, -, rfl⟩ := mem_only_mul.1 (isVisitor_iff.1 hvisitor)
    exact .inr ⟨'v', by simp, by decide⟩
  · unfold isPrivateSnake at hprivate
    split at hprivate
    · next rest =>
      rcases Bool.or_eq_true_iff.1 hprivate with hnil | hsnake
      · exact .inl (congrArg _ (List.isEmpty_iff.1 hnil))
      · obtain ⟨c, more, rfl, hc⟩ := exists_cons_of_isSnake hsnake
        exact .inr ⟨c, by simp, hc⟩
    · cases hprivate
  · obtain ⟨c, rest, rfl, hc⟩ := exists_cons_of_isSnake hsnake
    exact .inr ⟨c, List.mem_cons_self, hc⟩

/-- What may name a function is never blamed as a constant. -/
theorem not_looksConstant_of_isFunctionName (h : isFunctionName s = true) :
    looksConstant s = false := by
  rw [Bool.eq_false_iff]
  intro hlooks
  obtain ⟨⟨d, hd, hupper⟩, hlower⟩ := looksConstant_iff.1 hlooks
  rcases exists_small_of_isFunctionName h with rfl | ⟨c, hc, hsmall⟩
  · rw [List.mem_singleton.1 hd] at hupper
    exact absurd hupper (by decide +kernel)
  · have hnot := hlower c hc
    rw [isLower_of_isSmall hsmall] at hnot
    cases hnot

/-- A name of a function starts with an underscore or a small letter, so never with a capital. -/
theorem not_isFunctionName_of_capital {c : Char} {rest : List Char} (h : isCapital c = true) :
    isFunctionName (c :: rest) = false := by
  have hunderscore : '_' ≠ c := by
    rintro rfl
    cases h
  have hv : 'v' ≠ c := by
    rintro rfl
    cases h
  -- no letter is both small and capital
  have hsmall : isSmall c = false := by
    rw [Bool.eq_false_iff]
    intro hsmall
    have hle : 'a'.toNat ≤ c.toNat := of_decide_eq_true (Bool.and_eq_true_iff.1 hsmall).1
    have hle' : c.toNat ≤ 'Z'.toNat := of_decide_eq_true (Bool.and_eq_true_iff.1 h).2
    exact absurd (Nat.le_trans hle hle') (by decide)
  -- so each of the four forms fails at its first character
  have hdunder : isDunder (c :: rest) = false := by
    rw [isDunder, Text.after?, if_neg hunderscore]
  have hvisitor : isVisitor (c :: rest) = false := by
    have hword : "visit_".toList = 'v' :: "isit_".toList := rfl
    rw [isVisitor, hword, Text.after?, if_neg hv]
  have hprivate : isPrivateSnake (c :: rest) = false := by
    unfold isPrivateSnake
    split
    · next heq => exact absurd (List.cons.inj heq).1.symm hunderscore
    · rfl
  rw [isFunctionName, hdunder, hvisitor, hprivate, isSnake, hsmall]
  rfl

/-! ### Breaches -/

/-- The convention that an assigned name is blamed with. -/
def blamed (s : List Char) : Breach :=
  if looksConstant s then .constantCase else .variableCase

theorem breach?_variable_eq_none_iff :
    breach? .variable name = none ↔ name.toList ∈ allowed .variable := by
  simp only [allowed, Language.mem_add, ← contains_reserved_iff, ← isProse_iff, ← isFunctionName_iff,
    ← isConstant_iff, or_assoc]
  simp only [breach?]
  by_cases hpassed : (reserved.contains name || isProse name) = true
  · rw [if_pos hpassed]
    rcases Bool.or_eq_true_iff.1 hpassed with hreserved | hprose
    · exact iff_of_true rfl (.inl hreserved)
    · exact iff_of_true rfl (.inr (.inl hprose))
  · rw [if_neg hpassed]
    obtain ⟨hreserved, hprose⟩ := not_or.1 (mt Bool.or_eq_true_iff.2 hpassed)
    simp only [hreserved, hprose]
    -- what the name looks like settles which of the two languages it can be in
    rcases hlooks : looksConstant name.toList with - | -
    · have hconstant : ¬ isConstant name.toList = true := by
        intro hconstant
        rw [looksConstant_of_isConstant hconstant] at hlooks
        cases hlooks
      by_cases hfunction : isFunctionName name.toList = true <;> simp [hconstant, hfunction]
    · have hfunction : ¬ isFunctionName name.toList = true := by
        intro hfunction
        rw [not_looksConstant_of_isFunctionName hfunction] at hlooks
        cases hlooks
      by_cases hconstant : isConstant name.toList = true <;> simp [hconstant, hfunction]

/-- A variable that is not allowed is blamed by its letters. -/
theorem breach?_variable_eq_some_iff {b : Breach} :
    breach? .variable name = some b ↔ name.toList ∉ allowed .variable ∧ b = blamed name.toList := by
  have hcases : breach? .variable name = none ∨
      breach? .variable name = some (blamed name.toList) := by
    simp only [breach?, blamed]
    split
    · exact .inl rfl
    · split <;> split <;> simp
  rw [← breach?_variable_eq_none_iff]
  rcases hcases with hnone | hsome
  · simp [hnone]
  · simp [hsome, eq_comm]

/-- A role allows a name exactly if the name breaks no convention there. -/
theorem breach?_eq_none_iff (role : Role) : breach? role name = none ↔ name.toList ∈ allowed role := by
  -- each role has its own language and its own test
  cases role with
  | module =>
    rw [← isModuleName_iff, breach?]
    split <;> simp [*]
  | classDef =>
    rw [allowed, ← isPascal_iff, breach?]
    split <;> simp [*]
  | function =>
    rw [allowed, ← isFunctionName_iff, breach?]
    split <;> simp [*]
  | «variable» => exact breach?_variable_eq_none_iff

/-! ### Violations -/

theorem violation?_eq_none_iff (role : Role) :
    violation? role name = none ↔ name.toList ∈ allowed role :=
  Option.map_eq_none_iff.trans (breach?_eq_none_iff role)

theorem message_parts (subject convention name : String) :
    subject ++ " '" ++ name ++ "' does not follow " ++ convention ++ " convention" =
      (subject ++ " '") ++ name ++ ("' does not follow " ++ convention ++ " convention") := by
  simp only [String.append_assoc]

theorem constantCase_message (name : String) :
    Breach.constantCase.message name =
      "Constant '" ++ name ++ "' does not follow UPPER_CASE convention" :=
  message_parts "Constant" "UPPER_CASE" name

theorem variableCase_message (name : String) :
    Breach.variableCase.message name =
      "Variable '" ++ name ++ "' does not follow snake_case convention" :=
  message_parts "Variable" "snake_case" name

/-- The two messages about a variable differ, whatever names they are about. -/
theorem constantCase_message_ne (name name' : String) :
    Breach.constantCase.message name ≠ Breach.variableCase.message name' := by
  intro heq
  have hlist := congrArg String.toList heq
  simp only [constantCase_message, variableCase_message, String.toList_append] at hlist
  have hhead : 'C' = 'V' := (List.cons.inj hlist).1
  exact absurd hhead (by decide)

/-- A rejected assigned name is told to be a constant if it looks like one. -/
theorem violation?_variable_eq_some_iff {message : String} :
    violation? .variable name = some message ↔
      name.toList ∉ allowed .variable ∧ message = (blamed name.toList).message name := by
  rw [violation?, Option.map_eq_some_iff]
  simp only [breach?_variable_eq_some_iff]
  constructor
  · rintro ⟨b, ⟨hnot, rfl⟩, rfl⟩
    exact ⟨hnot, rfl⟩
  · rintro ⟨hnot, rfl⟩
    exact ⟨_, ⟨hnot, rfl⟩, rfl⟩

theorem constantCase_message_eq_iff :
    Breach.constantCase.message name = (blamed s).message name ↔ looksConstant s = true := by
  rw [blamed]
  split
  · next hlooks => exact iff_of_true rfl hlooks
  · next hlooks => exact iff_of_false (constantCase_message_ne name name) hlooks

theorem variableCase_message_eq_iff :
    Breach.variableCase.message name = (blamed s).message name ↔ ¬ looksConstant s = true := by
  rw [blamed]
  split
  · next hlooks => exact iff_of_false (constantCase_message_ne name name).symm (not_not.2 hlooks)
  · next hlooks => exact iff_of_true rfl hlooks

/-- A name breaks no convention exactly if it is in the language of its role.  So a name that a function
can have can be assigned to, and no name is one of a class and one of a function.  An assigned name that
is rejected is blamed with the convention for constants exactly if it has an upper-case character and no
lower-case one, and with that for variables otherwise. -/
theorem conventions_are_languages (name : String) :
    (∀ role, violation? role name = none ↔ name.toList ∈ allowed role) ∧
    (violation? .function name = none → violation? .variable name = none) ∧
    ¬ (violation? .classDef name = none ∧ violation? .function name = none) ∧
    (violation? .variable name =
        some ("Constant '" ++ name ++ "' does not follow UPPER_CASE convention") ↔
      name.toList ∉ allowed .variable ∧
        (∃ c ∈ name.toList, Text.isUpper c = true) ∧ ∀ c ∈ name.toList, Text.isLower c = false) ∧
    (violation? .variable name =
        some ("Variable '" ++ name ++ "' does not follow snake_case convention") ↔
      name.toList ∉ allowed .variable ∧
        ¬ ((∃ c ∈ name.toList, Text.isUpper c = true) ∧
          ∀ c ∈ name.toList, Text.isLower c = false)) := by
  -- the languages; functions among variables; classes apart from functions; the two messages
  refine ⟨fun role => violation?_eq_none_iff role, ?_, ?_, ?_, ?_⟩
  · intro hfunction
    rw [violation?_eq_none_iff] at hfunction ⊢
    exact Or.inl (Or.inr hfunction)
  · rintro ⟨hclass, hfunction⟩
    rw [violation?_eq_none_iff, allowed, pascalCase, mem_oneOf_mul_kstar] at hclass
    rw [violation?_eq_none_iff, allowed, ← isFunctionName_iff] at hfunction
    obtain ⟨c, rest, heq, hclass⟩ := hclass
    rw [heq, not_isFunctionName_of_capital (Bool.and_eq_true_iff.1 hclass).1] at hfunction
    cases hfunction
  · rw [← constantCase_message, violation?_variable_eq_some_iff, constantCase_message_eq_iff,
      looksConstant_iff]
  · rw [← variableCase_message, violation?_variable_eq_some_iff, variableCase_message_eq_iff,
      looksConstant_iff]

end QualityGate.Naming
