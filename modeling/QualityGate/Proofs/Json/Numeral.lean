/-
Number literals of JSON texts.

`IsNumber` says which characters make a number of the standard: perhaps a sign, a whole part, perhaps a
fraction, perhaps an exponent.  The reader takes such a number as it stands, if what follows it does not
go on with the number (`readNumber?_number`).  `IsNumeral` are those that are written here: their
exponent has the small letter and no plus sign.

The decimal texts of naturals are such literals, and so are the shortest texts of binary numbers
(`isNumeral_jsonText?`).
-/
import QualityGate.Json.Reader
import QualityGate.Proofs.Decimal.Shortest

namespace QualityGate.Json

open Text

variable {s rest whole fraction exponent : List Char}

/-! ### Literals -/

/-- A single zero, or digits that do not start with one. -/
def IsWhole (s : List Char) : Prop :=
  s = ['0'] ∨ (IsDigits s ∧ s.head? ≠ some '0')

/-- Nothing, or a point and digits. -/
def IsFraction (s : List Char) : Prop :=
  s = [] ∨ ∃ digits, s = '.' :: digits ∧ IsDigits digits

/-- Nothing, or the letter, perhaps a sign, and digits. -/
def IsExponent (s : List Char) : Prop :=
  s = [] ∨ ∃ sign digits, s = 'e' :: sign ++ digits ∧ (sign = [] ∨ sign = ['-']) ∧ IsDigits digits

/-- A number literal without a sign. -/
def IsUnsigned (s : List Char) : Prop :=
  ∃ whole fraction exponent, s = whole ++ (fraction ++ exponent) ∧
    IsWhole whole ∧ IsFraction fraction ∧ IsExponent exponent

/-- A number literal. -/
def IsNumeral (s : List Char) : Prop :=
  ∃ negative body, s = Binary64.signed negative body ∧ IsUnsigned body

/-- Nothing, or the letter in either case, perhaps a sign, and digits. -/
def IsPower (s : List Char) : Prop :=
  s = [] ∨ ∃ mark sign digits, s = mark :: (sign ++ digits) ∧ (mark = 'e' ∨ mark = 'E') ∧
    (sign = [] ∨ sign = ['+'] ∨ sign = ['-']) ∧ IsDigits digits

/-- A number of the standard. -/
def IsNumber (s : List Char) : Prop :=
  ∃ sign whole fraction power, s = sign ++ (whole ++ (fraction ++ power)) ∧
    (sign = [] ∨ sign = ['-']) ∧ IsWhole whole ∧ IsFraction fraction ∧ IsPower power

theorem IsExponent.isPower (h : IsExponent s) : IsPower s := by
  rcases h with rfl | ⟨sign, digits, rfl, hsign, hdigits⟩
  · exact .inl rfl
  · exact .inr ⟨'e', sign, digits, rfl, .inl rfl, hsign.imp_right .inr, hdigits⟩

theorem IsNumeral.isNumber (h : IsNumeral s) : IsNumber s := by
  obtain ⟨negative, body, rfl, whole, fraction, exponent, rfl, hwhole, hfraction, hexponent⟩ := h
  cases negative with
  | true => exact ⟨['-'], whole, fraction, exponent, rfl, .inr rfl, hwhole, hfraction, hexponent.isPower⟩
  | false => exact ⟨[], whole, fraction, exponent, rfl, .inl rfl, hwhole, hfraction, hexponent.isPower⟩

/-- The text does not go on with a number. -/
def EndsNumber (s : List Char) : Prop :=
  ∀ c, s.head? = some c → isAsciiDigit c = false ∧ c ≠ '.' ∧ c ≠ 'e' ∧ c ≠ 'E'

theorem EndsNumber.endsDigits (h : EndsNumber s) : EndsDigits s :=
  fun c hc => (h c hc).1

/-! ### Reading -/

/-- Digits are read to their end. -/
theorem readDigits?_digits (hs : IsDigits s) (hrest : EndsDigits rest) :
    readDigits? (s ++ rest) = some (s, rest) := by
  obtain ⟨htake, hdrop⟩ := takeWhile_digits hs.2 hrest
  rw [readDigits?, htake, hdrop]
  obtain ⟨c, more, rfl⟩ := List.exists_cons_of_ne_nil hs.1
  rfl

/-- A whole part is read to its end. -/
theorem readWhole?_whole (hs : IsWhole s) (hrest : EndsDigits rest) :
    readWhole? (s ++ rest) = some (s, rest) := by
  rcases hs with rfl | ⟨hs, hzero⟩
  · cases rest with
    | nil => rfl
    | cons c rest =>
      have hc : isAsciiDigit c = false := hrest c rfl
      show (if isAsciiDigit c = true then none else some (['0'], c :: rest)) = _
      rw [hc]
      rfl
  · rw [← readDigits?_digits hs hrest]
    obtain ⟨c, more, rfl⟩ := List.exists_cons_of_ne_nil hs.1
    -- the branch for a zero asks for one in front, and these digits start with none
    rw [List.cons_append, readWhole?]
    rintro more' heq
    obtain ⟨rfl, -⟩ := List.cons_eq_cons.1 heq
    exact hzero rfl

/-- A fraction is read to its end, and nothing is read as one where no point stands. -/
theorem readFraction?_fraction (hs : IsFraction s) (hrest : EndsDigits rest)
    (hpoint : rest.head? ≠ some '.') : readFraction? (s ++ rest) = some (s, rest) := by
  rcases hs with rfl | ⟨digits, rfl, hdigits⟩
  · rw [List.nil_append, readFraction?]
    rintro more rfl
    exact hpoint rfl
  · rw [List.cons_append, readFraction?, readDigits?_digits hdigits hrest]
    rfl

theorem ne_sign_of_isAsciiDigit {c : Char} (h : isAsciiDigit c = true) : ¬ (c = '+' ∨ c = '-') := by
  rintro (rfl | rfl) <;> cases h

/-- An exponent is read to its end, with any sign and either letter. -/
theorem readExponent?_power (hs : IsPower s) (hrest : EndsNumber rest) :
    readExponent? (s ++ rest) = some (s, rest) := by
  rcases hs with rfl | ⟨mark, sign, digits, rfl, hmark, hsign, hdigits⟩
  · cases rest with
    | nil => rfl
    | cons c rest =>
      obtain ⟨-, -, hlower, hupper⟩ := hrest c rfl
      exact if_neg (not_or.2 ⟨hlower, hupper⟩)
  · have hread := readDigits?_digits hdigits hrest.endsDigits
    rcases hsign with rfl | rfl | rfl
    -- without a sign the reader looks at the first digit, which is not one
    · obtain ⟨c, more, rfl⟩ := List.exists_cons_of_ne_nil hdigits.1
      have hc := ne_sign_of_isAsciiDigit (hdigits.2 c List.mem_cons_self)
      rw [List.cons_append] at hread
      simp only [List.cons_append, List.nil_append, readExponent?, hmark, if_true, if_neg hc, hread]
      rfl
    all_goals
      simp only [List.cons_append, List.nil_append, readExponent?, hmark, true_or, or_true, if_true,
        hread]
      rfl

/-- Behind an exponent and the end of a number stand neither digits nor a point. -/
theorem head?_power_append (hs : IsPower s) (hrest : EndsNumber rest) :
    EndsDigits (s ++ rest) ∧ (s ++ rest).head? ≠ some '.' := by
  rcases hs with rfl | ⟨mark, sign, digits, rfl, hmark, -, -⟩
  · rw [List.nil_append]
    exact ⟨hrest.endsDigits, fun h => (hrest '.' h).2.1 rfl⟩
  · have hfacts : isAsciiDigit mark = false ∧ mark ≠ '.' := by
      rcases hmark with rfl | rfl <;> decide
    refine ⟨fun c hc => ?_, fun hc => hfacts.2 (Option.some.inj hc)⟩
    obtain rfl := Option.some.inj hc
    exact hfacts.1

theorem endsDigits_fraction_append (hs : IsFraction s) (hrest : EndsDigits rest) :
    EndsDigits (s ++ rest) := by
  rcases hs with rfl | ⟨digits, rfl, -⟩
  · exact hrest
  · intro c hc
    obtain rfl := Option.some.inj hc
    rfl

/-- A whole part starts with a digit. -/
theorem IsWhole.exists_cons (h : IsWhole s) : ∃ c more, s = c :: more ∧ isAsciiDigit c = true := by
  rcases h with rfl | ⟨hdigits, -⟩
  · exact ⟨'0', [], rfl, rfl⟩
  · obtain ⟨c, more, rfl⟩ := List.exists_cons_of_ne_nil hdigits.1
    exact ⟨c, more, rfl, hdigits.2 c List.mem_cons_self⟩

/-- The reader takes a number as it stands. -/
theorem readNumber?_number (hs : IsNumber s) (hrest : EndsNumber rest) :
    readNumber? (s ++ rest) = some (s, rest) := by
  obtain ⟨sign, whole, fraction, power, rfl, hsign, hwhole, hfraction, hpower⟩ := hs
  obtain ⟨hdigits, hpoint⟩ := head?_power_append hpower hrest
  have hread : readUnsigned? (whole ++ (fraction ++ power) ++ rest) =
      some (whole ++ (fraction ++ power), rest) := by
    rw [List.append_assoc, List.append_assoc, readUnsigned?,
      readWhole?_whole hwhole (endsDigits_fraction_append hfraction hdigits)]
    simp only [Option.bind_eq_bind, Option.bind_some, readFraction?_fraction hfraction hdigits hpoint,
      readExponent?_power hpower hrest, List.append_assoc]
    rfl
  rcases hsign with rfl | rfl
  -- without a sign the reader looks at the first digit, which is no minus
  · obtain ⟨c, more, rfl, hc⟩ := hwhole.exists_cons
    rw [List.nil_append]
    rw [List.cons_append, List.cons_append] at hread ⊢
    rw [readNumber?]
    · exact hread
    · rintro more' heq
      obtain ⟨rfl, -⟩ := List.cons_eq_cons.1 heq
      cases hc
  · show (readUnsigned? (whole ++ (fraction ++ power) ++ rest)).map _ = _
    rw [hread]
    rfl

/-- A number starts with a digit or a minus sign. -/
theorem IsNumber.exists_cons (h : IsNumber s) :
    ∃ c more, s = c :: more ∧ (isAsciiDigit c = true ∨ c = '-') := by
  obtain ⟨sign, whole, fraction, power, rfl, rfl | rfl, hwhole, -⟩ := h
  · obtain ⟨c, more, rfl, hc⟩ := hwhole.exists_cons
    exact ⟨c, more ++ (fraction ++ power), rfl, .inl hc⟩
  · exact ⟨'-', whole ++ (fraction ++ power), rfl, .inr rfl⟩

/-! ### Texts of numbers -/

theorem isUnsigned_whole (h : IsWhole s) : IsUnsigned s :=
  ⟨s, [], [], by simp, h, .inl rfl, .inl rfl⟩

theorem isWhole_toDigits (n : Nat) : IsWhole (Nat.toDigits 10 n) := by
  by_cases hn : n = 0
  · exact .inl (hn ▸ rfl)
  · exact .inr ⟨isDigits_toDigits n, head?_toDigits_ne_zero hn⟩

theorem isNumeral_repr (n : Nat) : IsNumeral n.repr.toList :=
  ⟨false, _, Nat.toList_repr, isUnsigned_whole (isWhole_toDigits n)⟩

/-! ### Shortest texts of binary numbers -/

theorem isAsciiDigit_zeros {n : Nat} : ∀ c ∈ zeros n, isAsciiDigit c = true := by
  intro c hc
  rw [List.eq_of_mem_replicate hc]
  rfl

theorem isUnsigned_fraction (hwhole : IsWhole whole) (hfraction : IsDigits fraction) :
    IsUnsigned (whole ++ '.' :: fraction) :=
  ⟨whole, '.' :: fraction, [], by rw [List.append_nil], hwhole, .inr ⟨fraction, rfl, hfraction⟩,
    .inl rfl⟩

theorem isWhole_append (hs : IsDigits s) (hzero : s.head? ≠ some '0')
    (hrest : ∀ c ∈ rest, isAsciiDigit c = true) : IsWhole (s ++ rest) := by
  refine .inr ⟨hs.append hrest, ?_⟩
  obtain ⟨c, more, rfl⟩ := List.exists_cons_of_ne_nil hs.1
  exact hzero

theorem isWhole_zero : IsWhole ['0'] :=
  .inl rfl

theorem isDigits_zero : IsDigits ['0'] :=
  ⟨List.cons_ne_nil _ _, List.forall_mem_singleton.2 rfl⟩

/-- So is their text with the point put in. -/
theorem isUnsigned_positional {d : Digits} (h : d.IsNormal) : IsUnsigned d.positional := by
  rcases h with ⟨hdigits, hzero⟩ | rfl | rfl
  · rw [Digits.positional]
    split
    · -- all digits stand behind the point
      have hfraction : IsDigits (zeros (-d.point).toNat ++ d.digits) := by
        refine ⟨List.append_ne_nil_of_right_ne_nil _ hdigits.1, fun c hc => ?_⟩
        rcases List.mem_append.1 hc with hc | hc
        · exact isAsciiDigit_zeros c hc
        · exact hdigits.2 c hc
      exact isUnsigned_fraction isWhole_zero hfraction
    · split
      · -- all digits stand before the point
        exact isUnsigned_fraction (isWhole_append hdigits hzero isAsciiDigit_zeros)
          isDigits_zero
      · -- the point stands among the digits
        next hpoint hlength =>
        have htake : IsWhole (d.digits.take d.point.toNat) := by
          refine .inr ⟨⟨?_, fun c hc => hdigits.2 c (List.mem_of_mem_take hc)⟩, ?_⟩
          · rw [ne_eq, List.take_eq_nil_iff]
            rintro (hnil | hnil)
            · omega
            · exact hdigits.1 hnil
          · rw [List.head?_take, if_neg (by omega)]
            exact hzero
        have hdrop : IsDigits (d.digits.drop d.point.toNat) := by
          refine ⟨?_, fun c hc => hdigits.2 c (List.mem_of_mem_drop hc)⟩
          rw [ne_eq, List.drop_eq_nil_iff]
          exact hlength
        exact isUnsigned_fraction htake hdrop
  · exact isUnsigned_fraction isWhole_zero isDigits_zero
  · exact isUnsigned_fraction isWhole_zero isDigits_zero

theorem isWhole_singleton {c : Char} (h : isAsciiDigit c = true) : IsWhole [c] := by
  by_cases hzero : c = '0'
  · exact .inl (by rw [hzero])
  · exact .inr ⟨⟨List.cons_ne_nil _ _, by simpa using h⟩, by simpa using hzero⟩

/-- The scientific text of digits is a literal without a sign. -/
theorem isUnsigned_scientific {d : Digits} (h : ∀ c ∈ d.digits, isAsciiDigit c = true) :
    IsUnsigned d.scientific := by
  have hexponent : IsExponent ('e' :: (if d.point - 1 < 0 then ['-'] else []) ++
      Nat.toDigits 10 (d.point - 1).natAbs) := by
    refine .inr ⟨_, _, rfl, ?_, isDigits_toDigits _⟩
    split
    · exact .inr rfl
    · exact .inl rfl
  rw [Digits.scientific]
  rcases hd : d.digits with - | ⟨c, - | ⟨c', more⟩⟩
  · exact ⟨['0'], [], _, rfl, .inl rfl, .inl rfl, hexponent⟩
  · rw [hd] at h
    exact ⟨[c], [], _, rfl, isWhole_singleton (h c List.mem_cons_self), .inl rfl, hexponent⟩
  · rw [hd] at h
    obtain ⟨hc, hmore⟩ := List.forall_mem_cons.1 h
    exact ⟨[c], '.' :: c' :: more, _, by simp, isWhole_singleton hc,
      .inr ⟨c' :: more, rfl, List.cons_ne_nil _ _, hmore⟩, hexponent⟩

/-- The text of a finite number is a literal behind its sign. -/
theorem exists_jsonText? (negative : Bool) (m : Nat) (e : Int) :
    ∃ body, (Binary64.finite negative m e).jsonText? =
      some (String.ofList (Binary64.signed negative body)) ∧ IsUnsigned body := by
  have hnormal := Binary64.isNormal_shortestDigits m e
  refine ⟨_, rfl, ?_⟩
  split
  · exact isUnsigned_positional hnormal
  · refine isUnsigned_scientific ?_
    rcases hnormal with ⟨hdigits, -⟩ | hzero | hzero
    · exact hdigits.2
    · simp [hzero]
    · simp [hzero, isAsciiDigit]

/-- The text that a number is given in a document is a literal. -/
theorem isNumeral_jsonText? {x : Binary64} {text : String} (h : x.jsonText? = some text) :
    IsNumeral text.toList := by
  cases x with
  | finite negative m e =>
    obtain ⟨body, htext, hbody⟩ := exists_jsonText? negative m e
    rw [htext] at h
    obtain rfl := Option.some.inj h
    rw [String.toList_ofList]
    exact ⟨negative, body, rfl, hbody⟩
  | infinite negative => cases h
  | nan => cases h

end QualityGate.Json
