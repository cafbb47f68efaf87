/-
Whether the names that are found in a text are whole.

A name stands whole in a text if the characters next to it belong to no name.  The names of classes and
functions stand between a blank and a character that ends them, so they are whole
(`IsDeclaration.isWhole`).

An assigned name is searched from its first letter on.  Behind it stands a blank or an equals sign, and no
letter of the same word stands before it, for the search would have met that letter first
(`mem_search_assignment?`).  But digits and underscores that lead the word are passed over, so such a name
is only the rest of its word behind them (`names_end_words`).
-/
import Mathlib.Data.List.TakeWhile
import QualityGate.Check.Naming
import QualityGate.Proofs.Analysis.Convention
import QualityGate.Proofs.Text.Cut

namespace QualityGate.TextScan

variable {c : Char} {s t keyword name word blanks before behind rest : List Char} {m : Match}

/-! ### Characters -/

/-- A letter, with which an assigned name starts. -/
def isLetter (c : Char) : Bool :=
  Naming.isSmall c || Naming.isCapital c

/-- A character of a name that is no letter. -/
def isLead (c : Char) : Bool :=
  Naming.isNumeral c || c == '_'

theorem isNameChar_eq (c : Char) : isNameChar c = (isLetter c || isLead c) :=
  Bool.or_assoc _ _ _

theorem isNameChar_of_isLetter (h : isLetter c = true) : isNameChar c = true := by
  rw [isNameChar_eq, h, Bool.true_or]

theorem of_isNameChar (h : isNameChar c = true) :
    endsName c = false ∧ c ≠ '=' ∧ isLead c = !isLetter c :=
  Text.forall_ascii
    (P := fun c => isNameChar c = true → endsName c = false ∧ c ≠ '=' ∧ isLead c = !isLetter c)
    (by decide +kernel) (Naming.toNat_lt_of_nameChar h) h

theorem isNameChar_of_endsName (h : endsName c = true) : isNameChar c = false := by
  rw [Bool.eq_false_iff]
  intro hname
  rw [(of_isNameChar hname).1] at h
  cases h

theorem isNameChar_of_isBlank (h : Text.isBlank c = true) : isNameChar c = false := by
  apply isNameChar_of_endsName
  rw [endsName, h]
  rfl

theorem isNameChar_equals : isNameChar '=' = false := by decide

/-! ### Places -/

/-- No character of a name starts the text. -/
def EndsWord (s : List Char) : Prop :=
  ∀ c, s.head? = some c → isNameChar c = false

/-- A word in a text, with what stands before it and behind it; the characters next to it belong to no
name. -/
structure IsWhole (s before word behind : List Char) : Prop where
  text : s = before ++ word ++ behind
  left : EndsWord before.reverse
  right : EndsWord behind

instance (s : List Char) : Decidable (EndsWord s) :=
  decidable_of_iff (s.head?.all fun c => !isNameChar c) <| by
    rw [EndsWord]
    cases s.head? <;> simp

instance (s before word behind : List Char) : Decidable (IsWhole s before word behind) :=
  decidable_of_iff (s = before ++ word ++ behind ∧ EndsWord before.reverse ∧ EndsWord behind)
    ⟨fun h => ⟨h.1, h.2.1, h.2.2⟩, fun h => ⟨h.text, h.left, h.right⟩⟩

/-- The word stands whole at some place of the text. -/
def IsWholeIn (s word : List Char) : Prop :=
  ∃ before behind, IsWhole s before word behind

instance (s word : List Char) : Decidable (IsWholeIn s word) :=
  decidable_of_iff (∃ i < s.length + 1, IsWhole s (s.take i) word (s.drop (i + word.length))) <| by
    constructor
    · rintro ⟨i, -, h⟩
      exact ⟨_, _, h⟩
    · rintro ⟨before, behind, h⟩
      have htake : s.take before.length = before := by
        rw [h.text, List.append_assoc, List.take_left]
      have hdrop : s.drop (before.length + word.length) = behind := by
        rw [h.text]
        exact List.drop_left' List.length_append
      refine ⟨before.length, ?_, by rwa [htake, hdrop]⟩
      rw [h.text, List.length_append, List.length_append]
      omega

theorem endsWord_cons (h : isNameChar c = false) (s : List Char) : EndsWord (c :: s) := by
  intro d hd
  rwa [← Option.some.inj hd]

/-! ### Declarations -/

/-- The text starts with a keyword, blanks, a name, and a character that ends it. -/
structure IsDeclaration (keyword s blanks name behind : List Char) : Prop where
  text : s = keyword ++ blanks ++ name ++ behind
  blanks_ne_nil : blanks ≠ []
  blanks_blank : ∀ b ∈ blanks, Text.isBlank b = true
  ends : EndsWord behind

/-- A match of a keyword is a declaration: the keyword, blanks, and a name up to its end. -/
theorem exists_isDeclaration (h : declaration? keyword s = some m) :
    ∃ blanks behind, IsDeclaration keyword s blanks m.name behind := by
  unfold declaration? at h
  split at h
  · cases h
  · next rest hrest =>
    simp only at h
    split at h
    · next c behind hbehind =>
      split at h
      · next hshape =>
        obtain rfl := Option.some.inj h
        -- the blanks and the name are taken from the front, one behind the other
        have hstart := List.takeWhile_append_dropWhile (p := Text.isBlank) (l := rest)
        have hname := List.takeWhile_append_dropWhile (p := isNameChar)
          (l := rest.dropWhile Text.isBlank)
        rw [hbehind] at hname
        refine ⟨rest.takeWhile Text.isBlank, c :: behind, ?_, hshape.1, ?_, ?_⟩
        · rw [Text.eq_append_of_after? hrest, List.append_assoc, List.append_assoc, hname, hstart]
        · exact fun b hb => List.mem_takeWhile_imp hb
        · exact endsWord_cons (isNameChar_of_endsName hshape.2.2) behind
      · cases h
    · cases h

/-- The name of a class or a function is whole: a blank stands before it. -/
theorem IsDeclaration.isWhole (h : IsDeclaration keyword s blanks name behind) (before : List Char) :
    IsWhole (before ++ s) (before ++ keyword ++ blanks) name behind where
  text := by rw [h.text]; simp only [List.append_assoc]
  left := by
    intro c hc
    rw [List.head?_reverse, List.getLast?_append_of_ne_nil _ h.blanks_ne_nil] at hc
    exact isNameChar_of_isBlank (h.blanks_blank c (List.mem_of_getLast? hc))
  right := h.ends

/-! ### Assignments -/

/-- The text starts with a name that a letter starts, blanks, and an equals sign. -/
structure IsAssignment (s name blanks rest : List Char) : Prop where
  text : s = name ++ blanks ++ '=' :: rest
  letter : ∃ c more, name = c :: more ∧ isLetter c = true
  nameChars : ∀ c ∈ name, isNameChar c = true
  blanks_blank : ∀ b ∈ blanks, Text.isBlank b = true

/-- A name that is followed by blanks and the sign ends there. -/
theorem endsWord_blanks (h : ∀ b ∈ blanks, Text.isBlank b = true) (rest : List Char) :
    EndsWord (blanks ++ '=' :: rest) := by
  cases blanks with
  | nil => exact endsWord_cons isNameChar_equals rest
  | cons b blanks => exact endsWord_cons (isNameChar_of_isBlank (h b List.mem_cons_self)) _

/-- The word and the blanks behind it are read as they stand. -/
theorem IsAssignment.parts (h : IsAssignment s name blanks rest) :
    (s.takeWhile isNameChar = name ∧ s.dropWhile isNameChar = blanks ++ '=' :: rest) ∧
      (blanks ++ '=' :: rest).takeWhile Text.isBlank = blanks ∧
      (blanks ++ '=' :: rest).dropWhile Text.isBlank = '=' :: rest := by
  refine ⟨?_, Text.takeWhile_run h.blanks_blank ?_⟩
  · rw [h.text, List.append_assoc]
    exact Text.takeWhile_run h.nameChars (endsWord_blanks h.blanks_blank rest)
  · rintro c ⟨rfl⟩
    decide

/-- A match of an assignment is a name from a letter on, blanks, and the sign. -/
theorem isAssignment_of_assignment? (h : assignment? s = some m) :
    ∃ blanks rest, IsAssignment s m.name blanks rest ∧
      m.length = m.name.length + blanks.length + 1 := by
  cases s with
  | nil => cases h
  | cons c s =>
    simp only [assignment?] at h
    split at h
    · next hletter =>
      split at h
      · next rest hrest =>
        obtain rfl := Option.some.inj h
        -- the name is taken first, then the blanks, and the sign is what stops them
        have hname := List.takeWhile_append_dropWhile (p := isNameChar) (l := c :: s)
        have hblanks := List.takeWhile_append_dropWhile (p := Text.isBlank)
          (l := (c :: s).dropWhile isNameChar)
        rw [hrest] at hblanks
        refine ⟨((c :: s).dropWhile isNameChar).takeWhile Text.isBlank, rest, ⟨?_, ?_, ?_, ?_⟩, rfl⟩
        · rw [List.append_assoc, hblanks, hname]
        · exact ⟨c, s.takeWhile isNameChar,
            List.takeWhile_cons_of_pos (isNameChar_of_isLetter hletter), hletter⟩
        · exact fun d hd => List.mem_takeWhile_imp hd
        · exact fun b hb => List.mem_takeWhile_imp hb
      · cases h
    · cases h

/-- An assignment is found where it stands. -/
theorem IsAssignment.exists_assignment? (h : IsAssignment s name blanks rest) :
    assignment? s ≠ none := by
  obtain ⟨c, more, rfl, hletter⟩ := h.letter
  obtain ⟨⟨-, hdrop⟩, -, hequals⟩ := h.parts
  obtain ⟨s, rfl⟩ : ∃ t, s = c :: t := ⟨_, h.text⟩
  simp only [assignment?, hdrop, hequals]
  exact (if_pos hletter).trans_ne (Option.some_ne_none _)

/-- A match ends with the equals sign. -/
theorem IsAssignment.drop_eq (h : IsAssignment s name blanks rest) :
    s.drop (name.length + blanks.length + 1) = rest := by
  have htext : s = name ++ blanks ++ ['='] ++ rest := by
    rw [h.text]
    simp
  rw [htext]
  apply List.drop_left'
  simp only [List.length_append, List.length_singleton]

theorem IsAssignment.length_lt (h : IsAssignment s name blanks rest) : rest.length < s.length := by
  have hlength := congrArg List.length h.text
  simp only [List.length_append, List.length_cons] at hlength
  omega

/-- No name that starts in the text before goes on into the rest. -/
def IsFresh (before rest : List Char) : Prop :=
  ∀ front c word, before = front ++ c :: word → isLetter c = true → (∀ d ∈ word, isNameChar d = true) →
    assignment? (c :: word ++ rest) = none

theorem isFresh_nil (rest : List Char) : IsFresh [] rest := by
  intro front c word heq
  cases front <;> cases heq

/-- A character that starts no assignment is passed over. -/
theorem IsFresh.pass (h : IsFresh before (c :: rest)) (hnone : assignment? (c :: rest) = none) :
    IsFresh (before ++ [c]) rest := by
  intro front d word heq hletter hword
  -- a name that starts before `rest` starts at `c`, or before it
  rcases List.eq_nil_or_concat word with rfl | ⟨word, e, rfl⟩
  · obtain ⟨-, hd⟩ := List.append_inj' heq rfl
    rw [← (List.cons.inj hd).1]
    exact hnone
  · rw [List.concat_eq_append] at heq hword ⊢
    rw [← List.cons_append, ← List.append_assoc] at heq
    obtain ⟨hbefore, hlast⟩ := List.append_inj' heq rfl
    rw [← (List.cons.inj hlast).1]
    have hfront := h front d word hbefore hletter fun x hx => hword x (List.mem_append_left _ hx)
    rwa [List.cons_append, List.append_assoc, List.singleton_append]

/-- No name goes on behind an equals sign. -/
theorem isFresh_append_equals (before rest : List Char) : IsFresh (before ++ ['=']) rest := by
  intro front c word heq hletter hword
  -- a word that reaches back over the sign would have the sign in it
  have hlast : (c :: word).getLast? = some '=' := by
    have hgetLast := congrArg List.getLast? heq
    rw [List.getLast?_append_of_ne_nil _ (List.cons_ne_nil _ _),
      List.getLast?_append_of_ne_nil _ (List.cons_ne_nil _ _)] at hgetLast
    exact hgetLast.symm
  have hname : isNameChar '=' = true := by
    rcases List.mem_cons.1 (List.mem_of_getLast? hlast) with heq | hmem
    · exact heq ▸ isNameChar_of_isLetter hletter
    · exact hword _ hmem
  rw [isNameChar_equals] at hname
  cases hname

/-- Characters to be passed over might as well not be there. -/
theorem search_skip (match? : List Char → Option Match) (skip : Nat) (s : List Char) :
    search match? skip s = search match? 0 (s.drop skip) := by
  induction skip generalizing s with
  | zero => rfl
  | succ skip ih =>
    cases s with
    | nil => rfl
    | cons c s => exact ih s

/-- A name that is found stands at a place of the text where a match starts. -/
theorem mem_search {match? : List Char → Option Match} {skip : Nat} (h : name ∈ search match? skip s) :
    ∃ before rest m, s = before ++ rest ∧ match? rest = some m ∧ m.name = name := by
  induction s generalizing skip with
  | nil => cases skip <;> cases h
  | cons c s ih =>
    have hlater {skip : Nat} (h : name ∈ search match? skip s) :
        ∃ before rest m, c :: s = before ++ rest ∧ match? rest = some m ∧ m.name = name := by
      obtain ⟨before, rest, m, rfl, hmatch, hname⟩ := ih h
      exact ⟨c :: before, rest, m, rfl, hmatch, hname⟩
    -- a match here gives its name, and everything else comes from later matches
    cases skip with
    | succ skip => exact hlater h
    | zero =>
      rw [search] at h
      split at h
      · next m hmatch =>
        rcases List.mem_cons.1 h with rfl | h
        · exact ⟨[], c :: s, m, rfl, hmatch, rfl⟩
        · exact hlater h
      · exact hlater h

/-- The search for assignments meets a word at its first letter. -/
theorem mem_search_assignment? (hfresh : IsFresh before s) (h : name ∈ search assignment? 0 s) :
    ∃ before' rest' blanks behind, before ++ s = before' ++ rest' ∧ IsFresh before' rest' ∧
      IsAssignment rest' name blanks behind := by
  induction hlength : s.length using Nat.strongRecOn generalizing s before with
  | _ length ih =>
    cases s with
    | nil => cases h
    | cons c s =>
      have hsplit : before ++ c :: s = before ++ [c] ++ s := by simp
      rw [search] at h
      split at h
      · next m hmatch =>
        obtain ⟨blanks, rest, hassign, hm⟩ := isAssignment_of_assignment? hmatch
        rcases List.mem_cons.1 h with rfl | h
        · exact ⟨before, c :: s, blanks, rest, rfl, hfresh, hassign⟩
        · -- the search goes on behind the equals sign
          have hrest : s.drop (m.length - 1) = rest := by
            rw [hm]
            exact hassign.drop_eq
          rw [search_skip, hrest] at h
          have htext : before ++ c :: s = before ++ (m.name ++ blanks) ++ ['='] ++ rest := by
            rw [hassign.text]
            simp
          have hshorter : rest.length < length := hlength ▸ hassign.length_lt
          obtain ⟨before', rest', hfound⟩ :=
            ih rest.length hshorter (isFresh_append_equals _ rest) h rfl
          rw [htext]
          exact ⟨before', rest', hfound⟩
      · next hnone =>
        have hshorter : s.length < length := by rw [← hlength]; exact Nat.lt_succ_self _
        rw [hsplit]
        exact ih s.length hshorter (hfresh.pass hnone) h rfl

theorem endsWord_dropWhile (s : List Char) : EndsWord (s.dropWhile isNameChar) := by
  intro c hc
  have hhead := List.head?_dropWhile_not isNameChar s
  rwa [hc] at hhead

/-- Only digits and underscores stand before an assigned name in its word. -/
theorem IsAssignment.isLead_of_mem (h : IsAssignment rest name blanks behind)
    (hfresh : IsFresh (before ++ word) rest) (hword : ∀ c ∈ word, isNameChar c = true) :
    ∀ c ∈ word, isLead c = true := by
  intro c hc
  obtain ⟨front, more, rfl⟩ := List.append_of_mem hc
  have hmore : ∀ d ∈ more, isNameChar d = true := fun d hd =>
    hword d (List.mem_append_right _ (List.mem_cons_of_mem _ hd))
  rw [(of_isNameChar (hword c hc)).2.2, Bool.not_eq_true', Bool.eq_false_iff]
  intro hletter
  -- a letter there would have started the name
  have hearlier : IsAssignment (c :: more ++ rest) (c :: more ++ name) blanks behind := by
    refine ⟨?_, ⟨c, more ++ name, rfl, hletter⟩, ?_, h.blanks_blank⟩
    · rw [h.text]
      simp only [List.append_assoc]
    · rw [List.forall_mem_append]
      exact ⟨List.forall_mem_cons.2 ⟨isNameChar_of_isLetter hletter, hmore⟩, h.nameChars⟩
  exact hearlier.exists_assignment?
    (hfresh (before ++ front) c more (List.append_assoc _ _ _).symm hletter hmore)

theorem IsAssignment.isLead_head (h : IsAssignment s name blanks rest) :
    ∀ c, name.head? = some c → isLead c = false := by
  intro c hc
  obtain ⟨d, more, rfl, hletter⟩ := h.letter
  obtain rfl := Option.some.inj hc
  rw [(of_isNameChar (isNameChar_of_isLetter hletter)).2.2, hletter]
  rfl

/-- An assigned name is its word without the digits and underscores that lead it. -/
theorem IsAssignment.exists_isWhole (h : IsAssignment rest name blanks behind)
    (hfresh : IsFresh before rest) :
    ∃ front word, IsWhole (before ++ rest) front word (blanks ++ '=' :: behind) ∧
      word.dropWhile isLead = name := by
  obtain ⟨front, lead, rfl, hfront, hnames⟩ : ∃ front lead, before = front ++ lead ∧
      EndsWord front.reverse ∧ ∀ c ∈ lead, isNameChar c = true := by
    refine ⟨(before.reverse.dropWhile isNameChar).reverse,
      (before.reverse.takeWhile isNameChar).reverse, ?_, ?_, ?_⟩
    · rw [← List.reverse_append, List.takeWhile_append_dropWhile, List.reverse_reverse]
    · rw [List.reverse_reverse]
      exact endsWord_dropWhile _
    · exact fun c hc => List.mem_takeWhile_imp (List.mem_reverse.1 hc)
  -- the whole word is what leads up to the name, and the name
  refine ⟨front, lead ++ name, ⟨?_, hfront, endsWord_blanks h.blanks_blank behind⟩, ?_⟩
  · rw [h.text]
    simp only [List.append_assoc]
  · exact (Text.takeWhile_run (h.isLead_of_mem hfresh hnames) h.isLead_head).2

/-- What is left of a word is all of it exactly if a letter starts the word. -/
theorem name_eq_word_iff (h : word.dropWhile isLead = name)
    (hletter : ∃ c more, name = c :: more ∧ isLetter c = true) :
    name = word ↔ ∃ c more, word = c :: more ∧ isLetter c = true := by
  constructor
  · rintro rfl
    exact hletter
  · rintro ⟨c, more, rfl, hc⟩
    have hlead : isLead c = false := by
      rw [(of_isNameChar (isNameChar_of_isLetter hc)).2.2, hc]
      rfl
    rw [← h, List.dropWhile_cons_of_neg (by rw [hlead]; exact Bool.false_ne_true)]

/-! ### The names of a text -/

theorem of_mem_found {role : Naming.Role} {match? : List Char → Option Match} {n : Naming.Role × String}
    (h : n ∈ found role match? s) : n.1 = role ∧ n.2.toList ∈ search match? 0 s := by
  obtain ⟨name, hname, rfl⟩ := List.mem_map.1 h
  refine ⟨rfl, ?_⟩
  rwa [String.toList_ofList]

/-- A name is found by one of the searches, and its role tells by which kind of search. -/
theorem of_mem_names {n : Naming.Role × String} (h : n ∈ names s) :
    (n.1 ≠ .variable ∧ ∃ keyword, n.2.toList ∈ search (declaration? keyword) 0 (stripped s)) ∨
      (n.1 = .variable ∧ n.2.toList ∈ search assignment? 0 (stripped s)) := by
  rcases List.mem_append.1 h with h | h
  · left
    rcases List.mem_append.1 (List.mem_filter.1 h).1 with h | h
    all_goals
      obtain ⟨hrole, hname⟩ := of_mem_found h
      exact ⟨hrole.trans_ne nofun, _, hname⟩
  · exact .inr (of_mem_found h)

/-- A name that is declared by a keyword is a whole word. -/
theorem isWholeIn_of_mem_search (h : name ∈ search (declaration? keyword) 0 s) : IsWholeIn s name := by
  obtain ⟨before, rest, m, rfl, hmatch, rfl⟩ := mem_search h
  obtain ⟨blanks, behind, hdeclaration⟩ := exists_isDeclaration hmatch
  exact ⟨_, behind, hdeclaration.isWhole before⟩

/-- Every name that is found in a text is a whole word of it, or what is left of one.  The names of
classes and functions are whole.  An assigned name is what is left of a word before an equals sign if the
digits and underscores that lead the word are passed over; so it is whole exactly if a letter starts that
word. -/
theorem names_end_words (s : List Char) :
    (∀ n ∈ names s, n.1 ≠ .variable → IsWholeIn (stripped s) n.2.toList) ∧
    ∀ n ∈ names s, n.1 = .variable →
      ∃ before word blanks behind, IsWhole (stripped s) before word (blanks ++ '=' :: behind) ∧
        (∀ b ∈ blanks, Text.isBlank b = true) ∧ n.2.toList = word.dropWhile isLead ∧
        (n.2.toList = word ↔ ∃ c more, word = c :: more ∧ isLetter c = true) := by
  refine ⟨fun n hn hrole => ?_, fun n hn hrole => ?_⟩
  · obtain ⟨-, keyword, hname⟩ := (of_mem_names hn).resolve_right fun h => hrole h.1
    exact isWholeIn_of_mem_search hname
  · obtain ⟨-, hname⟩ := (of_mem_names hn).resolve_left fun h => h.1 hrole
    obtain ⟨before, rest, blanks, behind, htext, hfresh, hassign⟩ :=
      mem_search_assignment? (isFresh_nil _) hname
    obtain ⟨front, word, hwhole, hword⟩ := hassign.exists_isWhole hfresh
    rw [← htext, List.nil_append] at hwhole
    exact ⟨front, word, blanks, behind, hwhole, hassign.blanks_blank, hword.symm,
      name_eq_word_iff hword hassign.letter⟩

/-- In a module with a fault, the name behind an underscore is found without it, though it stands nowhere
on its own; without the fault the check blames the whole name. -/
theorem names_fragment_behind_underscore :
    let s := "_fooBar = 1\ndef f(:\n".toList
    let blamed := fun text => (Check.misnamedInText ⟨"src/m.py"⟩ text).map Finding.display
    (names s = [(.function, "f"), (.variable, "fooBar")] ∧
      ¬ ∀ n ∈ names s, IsWholeIn (stripped s) n.2.toList) ∧
    blamed s = ["src/m.py - Variable 'fooBar' does not follow snake_case convention"] ∧
    blamed "_fooBar = 1\n".toList =
      ["src/m.py:1 - Variable '_fooBar' does not follow snake_case convention"] := by
  decide +kernel

end QualityGate.TextScan
