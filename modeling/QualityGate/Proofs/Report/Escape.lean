/-
Colour in the summary.

A terminal reads a text as characters to show and as escape sequences that set attributes
(`Terminal.signs`).  A text without the escape character is shown as it stands, whatever follows it, and
a sequence is read as one, so what is read of spans is put together span by span (`signs_painted`).

Two things follow for spans in whose texts no escape character stands.  What is shown of them in colour
is what is written without (`shown_painted`).  And if no line ends inside a styled span, every attribute
that is set is reset again before the line and the text end (`isClosed_painted`).  The spans of a summary
are such (`isTame_of_mem_spans`).
-/
import QualityGate.Proofs.Report.Summary

namespace QualityGate

open Text

/-! ### What a terminal reads -/

namespace Terminal

/-- What a terminal reads: a character to show, or an escape sequence with its digits. -/
inductive Sign where
  | char (c : Char)
  | escape (code : List Char)
  deriving DecidableEq

/-- The digits of the escape sequence that the text starts with, and the text behind it. -/
def sequence? : List Char → Option (List Char × List Char)
  | '\x1b' :: '[' :: s =>
    match s.takeWhile isAsciiDigit, s.dropWhile isAsciiDigit with
    | d :: code, 'm' :: rest => some (d :: code, rest)
    | _, _ => none
  | _ => none

variable {c : Char} {s code rest : List Char}

/-- What stands behind a sequence is shorter than the text. -/
theorem length_of_sequence? (h : sequence? s = some (code, rest)) : rest.length < s.length := by
  unfold sequence? at h
  split at h
  · next s =>
    split at h
    · next d more tail htake hdrop =>
      obtain ⟨-, rfl⟩ := Prod.mk.inj (Option.some.inj h)
      have hlength := (List.dropWhile_suffix isAsciiDigit (l := s)).length_le
      rw [hdrop, List.length_cons] at hlength
      simp only [List.length_cons]
      omega
    · cases h
  · cases h

/-- The text as a terminal reads it, from the left. -/
def signs (s : List Char) : List Sign :=
  match _hs : sequence? s with
  | some (code, rest) => .escape code :: signs rest
  | none =>
    match s with
    | [] => []
    | c :: rest => .char c :: signs rest
termination_by s.length
decreasing_by
  · exact length_of_sequence? _hs
  · exact Nat.lt_succ_self _

/-- The character that is shown. -/
def Sign.char? : Sign → Option Char
  | .char c => some c
  | .escape _ => none

/-- What is shown of a text: its characters without the escape sequences. -/
def shown (s : List Char) : List Char :=
  (signs s).filterMap Sign.char?

/-- The sequence that ends all attributes. -/
def reset : Sign :=
  .escape ['0']

theorem sequence?_cons_of_ne (h : c ≠ '\x1b') (s : List Char) : sequence? (c :: s) = none := by
  unfold sequence?
  split
  · next heq => exact absurd (List.cons_eq_cons.1 heq).1 h
  · rfl

theorem signs_nil : signs [] = [] := by
  rw [signs]
  rfl

/-- A character that starts no sequence is shown. -/
theorem signs_cons_of_ne (h : c ≠ '\x1b') (s : List Char) : signs (c :: s) = .char c :: signs s := by
  rw [signs]
  split
  · next hs =>
    rw [sequence?_cons_of_ne h] at hs
    cases hs
  · rfl

/-- Characters that start no escape sequence are read one by one, whatever follows them. -/
theorem signs_append_of_notMem {t : List Char} (h : '\x1b' ∉ t) (s : List Char) :
    signs (t ++ s) = t.map Sign.char ++ signs s := by
  induction t with
  | nil => rfl
  | cons c t ih =>
    obtain ⟨hc, ht⟩ := not_or.1 (mt List.mem_cons.2 h)
    rw [List.cons_append, signs_cons_of_ne (Ne.symm hc), ih ht]
    rfl

/-- A sequence is read as one, whatever follows it. -/
theorem signs_sequence (h : IsDigits code) (s : List Char) :
    signs ('\x1b' :: '[' :: (code ++ 'm' :: s)) = .escape code :: signs s := by
  have hends : EndsDigits ('m' :: s) := by
    rintro c ⟨⟩
    rfl
  -- the digits are taken up to the letter behind them
  obtain ⟨htake, hdrop⟩ := takeWhile_digits h.2 hends
  obtain ⟨d, more, rfl⟩ := List.exists_cons_of_ne_nil h.1
  have hread : sequence? ('\x1b' :: '[' :: (d :: more ++ 'm' :: s)) = some (d :: more, s) := by
    simp only [sequence?, htake, hdrop]
  rw [signs]
  split
  · next hs =>
    rw [hread] at hs
    obtain ⟨rfl, rfl⟩ := Prod.mk.inj (Option.some.inj hs)
    rfl
  · next hs =>
    rw [hread] at hs
    cases hs

/-! ### Attributes that are set and reset -/

/-- Behind every sequence that sets an attribute comes one that ends all attributes, and no line ends in
between. -/
def IsClosed (signs : List Sign) : Prop :=
  ∀ before code after, signs = before ++ .escape code :: after → Sign.escape code ≠ reset →
    ∃ covered rest, after = covered ++ reset :: rest ∧ Sign.char '\n' ∉ covered

theorem isClosed_chars (s : List Char) : IsClosed (s.map Sign.char) := by
  intro before code after heq _
  have hmem : Sign.escape code ∈ s.map Sign.char := by
    rw [heq]
    simp
  simp at hmem

/-- What stands before a reset is closed by it if no line ends there. -/
theorem isClosed_concat_reset {signs : List Sign} (h : Sign.char '\n' ∉ signs) :
    IsClosed (signs ++ [reset]) := by
  intro before code after heq hcode
  rcases List.eq_nil_or_concat after with rfl | ⟨covered, last, rfl⟩
  · -- the sequence that comes last is the reset itself
    obtain ⟨-, hlast⟩ := List.append_inj' heq rfl
    exact absurd (List.cons_eq_cons.1 hlast).1.symm hcode
  · rw [List.concat_eq_append, ← List.cons_append, ← List.append_assoc] at heq
    obtain ⟨hfront, hlast⟩ := List.append_inj' heq rfl
    refine ⟨covered, [], ?_, ?_⟩
    · rw [List.concat_eq_append, ← hlast]
    · intro hfeed
      apply h
      rw [hfront]
      exact List.mem_append_right _ (List.mem_cons_of_mem _ hfeed)

/-- Two parts that are closed are closed together. -/
theorem isClosed_append {front back : List Sign} (hfront : IsClosed front) (hback : IsClosed back) :
    IsClosed (front ++ back) := by
  intro before code after heq hcode
  rcases List.append_eq_append_iff.1 heq with ⟨more, rfl, hmore⟩ | ⟨more, rfl, hmore⟩
  · -- the sequence stands in the second part
    exact hback more code after hmore hcode
  · cases more with
    | nil => exact hback [] code after hmore.symm hcode
    | cons sign more =>
      -- it stands in the first part, and is reset there
      obtain ⟨rfl, rfl⟩ := List.cons_eq_cons.1 hmore
      obtain ⟨covered, rest, rfl, hfeed⟩ := hfront before code more rfl hcode
      exact ⟨covered, rest ++ back, by simp, hfeed⟩

theorem isClosed_flatMap {α : Type} {f : α → List Sign} {xs : List α} (h : ∀ x ∈ xs, IsClosed (f x)) :
    IsClosed (xs.flatMap f) := by
  induction xs with
  | nil => exact isClosed_chars []
  | cons x rest ih =>
    obtain ⟨hx, hrest⟩ := List.forall_mem_cons.1 h
    exact isClosed_append hx (ih hrest)

end Terminal

open Terminal

/-! ### Painted spans -/

namespace Pen

/-- The digits of the sequences that the pen starts with. -/
def codes (p : Pen) : List String :=
  ["0"] ++ (if p.bold then ["1"] else []) ++ (if p.dimmed then ["2"] else []) ++
    (p.colour.map colourCode).toList

theorem isDigits_code {code : String} (hne : code.toList ≠ [])
    (h : code.toList.all isAsciiDigit = true) : IsDigits code.toList :=
  ⟨hne, List.all_eq_true.1 h⟩

theorem isDigits_of_mem_codes {p : Pen} {code : String} (h : code ∈ p.codes) :
    IsDigits code.toList := by
  have hcolour (c : Colour) : IsDigits (colourCode c).toList := by
    cases c <;> exact isDigits_code (by decide) (by decide)
  simp only [codes, List.mem_append, List.mem_singleton, List.mem_ite_nil_right, Option.mem_toList,
    Option.map_eq_some_iff] at h
  rcases h with ((rfl | ⟨-, rfl⟩) | ⟨-, rfl⟩) | ⟨c, -, rfl⟩
  · exact isDigits_code (by decide) (by decide)
  · exact isDigits_code (by decide) (by decide)
  · exact isDigits_code (by decide) (by decide)
  · exact hcolour c

/-- A pen starts with the sequences of its codes. -/
theorem start_eq (p : Pen) : p.start = String.join (p.codes.map escape) := by
  obtain ⟨colour, bold, dimmed⟩ := p
  cases bold <;> cases dimmed <;> rcases colour with - | (- | - | - | -) <;> rfl

/-- A sequence that is written is read as one sign. -/
theorem signs_escape_append {code : String} (h : IsDigits code.toList) (s : List Char) :
    signs ((escape code).toList ++ s) = .escape code.toList :: signs s := by
  have hescape : (escape code).toList = '\x1b' :: '[' :: (code.toList ++ ['m']) := by
    rw [escape, String.toList_append, String.toList_append]
    rfl
  rw [hescape, List.cons_append, List.cons_append, List.append_assoc, List.singleton_append,
    signs_sequence h]

theorem signs_escapes_append {codes : List String} (h : ∀ code ∈ codes, IsDigits code.toList)
    (s : List Char) :
    signs ((String.join (codes.map escape)).toList ++ s) =
      codes.map (fun code => .escape code.toList) ++ signs s := by
  rw [String.toList_join, List.flatMap_map]
  induction codes with
  | nil => rfl
  | cons code rest ih =>
    obtain ⟨hcode, hrest⟩ := List.forall_mem_cons.1 h
    rw [List.flatMap_cons, List.append_assoc, signs_escape_append hcode, ih hrest]
    rfl

end Pen

namespace Span

/-- The text of a span. -/
def text : Span → String
  | .plain text => text
  | .styled _ text => text

/-- What a terminal reads of a span in colour. -/
def signs : Span → List Sign
  | .plain text => text.toList.map .char
  | .styled pen text =>
    pen.codes.map (fun code => .escape code.toList) ++ text.toList.map .char ++ [reset]

/-- No escape sequence starts in the span's text, and no line ends in it if it is styled. -/
structure IsTame (s : Span) : Prop where
  escape : '\x1b' ∉ s.text.toList
  feed : ∀ pen text, s = .styled pen text → '\n' ∉ text.toList

variable {s : Span} {spans : List Span}

theorem isTame_plain {text : String} (h : '\x1b' ∉ text.toList) : (Span.plain text).IsTame :=
  ⟨h, nofun⟩

theorem isTame_styled {pen : Pen} {text : String} (h : '\x1b' ∉ text.toList)
    (hfeed : '\n' ∉ text.toList) : (Span.styled pen text).IsTame := by
  refine ⟨h, ?_⟩
  rintro pen text ⟨⟩
  exact hfeed

/-- A painted span is read as its signs, whatever stands behind it. -/
theorem signs_paint_append (h : '\x1b' ∉ s.text.toList) (rest : List Char) :
    Terminal.signs ((s.paint true).toList ++ rest) = s.signs ++ Terminal.signs rest := by
  cases s with
  | plain text => exact signs_append_of_notMem h rest
  | styled pen text =>
    have htext : '\x1b' ∉ text.toList := h
    have hzero : IsDigits "0".toList := Pen.isDigits_code (by decide) (by decide)
    have hreset := Pen.signs_escape_append hzero rest
    rw [paint, if_pos rfl, String.toList_append, String.toList_append, List.append_assoc,
      List.append_assoc, Pen.start_eq, Pen.signs_escapes_append fun _ => Pen.isDigits_of_mem_codes,
      signs_append_of_notMem htext, Pen.reset, hreset, signs]
    simp [reset]

theorem signs_painted (h : ∀ s ∈ spans, '\x1b' ∉ s.text.toList) :
    Terminal.signs (painted true spans) = spans.flatMap signs := by
  induction spans with
  | nil => exact signs_nil
  | cons s rest ih =>
    obtain ⟨hs, hrest⟩ := List.forall_mem_cons.1 h
    rw [painted_cons, signs_paint_append hs, ih hrest, List.flatMap_cons]

/-- Of a span in colour its text is shown. -/
theorem shown_signs (s : Span) : s.signs.filterMap Sign.char? = s.text.toList := by
  have hchars (t : List Char) : (t.map Sign.char).filterMap Sign.char? = t := by
    rw [List.filterMap_map]
    exact List.filterMap_some
  have hcodes (codes : List String) :
      (codes.map fun code => Sign.escape code.toList).filterMap Sign.char? = [] := by
    rw [List.filterMap_map]
    exact List.filterMap_eq_nil_iff.2 fun _ _ => rfl
  -- the codes show nothing, and the characters show the text
  cases s with
  | plain text => exact hchars _
  | styled pen text =>
    rw [signs, List.filterMap_append, List.filterMap_append, hchars, hcodes, List.nil_append]
    exact List.append_nil _

/-- What is shown of spans in colour is what is written without. -/
theorem shown_painted (h : ∀ s ∈ spans, '\x1b' ∉ s.text.toList) :
    shown (painted true spans) = painted false spans := by
  rw [shown, signs_painted h, List.filterMap_flatMap, painted]
  congr 1
  funext s
  rw [shown_signs]
  cases s <;> rfl

/-- A span whose text stays in its line closes what it opens before the line ends. -/
theorem isClosed_signs (h : s.IsTame) : IsClosed s.signs := by
  cases s with
  | plain text => exact isClosed_chars _
  | styled pen text =>
    apply isClosed_concat_reset
    have hfeed : '\n' ∉ text.toList := h.feed pen text rfl
    simpa using hfeed

/-- Every attribute that is set in tame spans is reset before the line ends. -/
theorem isClosed_painted (h : ∀ s ∈ spans, s.IsTame) :
    IsClosed (Terminal.signs (painted true spans)) := by
  rw [signs_painted fun s hs => (h s hs).escape]
  apply isClosed_flatMap
  intro s hs
  exact isClosed_signs (h s hs)

end Span

/-! ### The summary -/

namespace Summary

open QualityGate.Span

variable {results : List CheckResult}

theorem isTame_status (status : Status) :
    (Span.styled (penOf status) (symbol status)).IsTame ∧
      (Span.styled (penOf status) status.label).IsTame ∧
      (Span.styled (penOf status) (padRight 8 status.label)).IsTame := by
  refine ⟨?_, ?_, ?_⟩ <;> cases status <;> exact isTame_styled (by decide) (by decide)

/-- The lines of the details hold no line feed, and no escape character that the details do not hold. -/
theorem isTame_of_mem_detailLine {details : String} {line : List Char} {s : Span}
    (h : '\x1b' ∉ details.toList) (hline : line ∈ lines details.toList) (hs : s ∈ detailLine line) :
    s.IsTame := by
  obtain ⟨piece, hpiece, hstart⟩ := exists_piece_of_mem_lines hline
  -- a line is a part of the details, and no feed is in it
  have hescape : '\x1b' ∉ line := fun hc => h (mem_of_mem_splitOn hpiece (hstart.subset hc))
  have hfeed : '\n' ∉ line := fun hc => notMem_of_mem_splitOn hpiece (hstart.subset hc)
  rw [detailLine] at hs
  split at hs
  · rw [List.mem_singleton.1 hs]
    exact isTame_plain (by decide)
  · simp only [List.mem_cons, List.not_mem_nil, or_false] at hs
    rcases hs with rfl | rfl | rfl
    · exact isTame_plain (by decide)
    · exact isTame_styled (by simpa using hescape) (by simpa using hfeed)
    · exact isTame_plain (by decide)

/-- All spans of a result are tame if its own texts are. -/
theorem isTame_of_mem_resultSpans {r : CheckResult} {s : Span} (hname : '\x1b' ∉ r.name.toList)
    (hfeed : '\n' ∉ r.name.toList) (hdetails : '\x1b' ∉ r.details.toList) (hs : s ∈ resultSpans r) :
    s.IsTame := by
  obtain ⟨hsymbol, hlabel, -⟩ := isTame_status r.status
  rw [resultSpans, List.append_assoc] at hs
  -- first the line with the name, then the details, then an empty line
  rcases List.mem_append.1 hs with hs | hs
  · simp only [List.mem_cons, List.not_mem_nil, or_false] at hs
    rcases hs with rfl | rfl | rfl | rfl | rfl | rfl
    · exact hsymbol
    · exact isTame_plain (by decide)
    · exact isTame_styled hname hfeed
    · exact isTame_plain (by decide)
    · exact hlabel
    · exact isTame_plain (by decide)
  · rcases List.mem_append.1 hs with hs | hs
    · obtain ⟨line, hline, hs⟩ := List.mem_flatMap.1 hs
      exact isTame_of_mem_detailLine hdetails hline hs
    · rw [List.mem_singleton.1 hs]
      exact isTame_plain (by decide)

/-- Numbers and blanks hold no escape character. -/
theorem escape_notMem_padLeft (n : Nat) : '\x1b' ∉ (padLeft 3 n.repr).toList := by
  rw [padLeft, String.toList_append, String.toList_ofList, List.mem_append, not_or]
  constructor
  · intro h
    exact absurd (List.eq_of_mem_replicate h) (by decide)
  · intro h
    rw [Nat.repr_eq_ofList_toDigits, String.toList_ofList] at h
    exact absurd ((isDigits_toDigits n).2 _ h) (by decide)

theorem escape_notMem_totalRow (total : Nat) :
    '\x1b' ∉ ("  " ++ padRight 8 "TOTAL" ++ padLeft 3 total.repr ++ "\n").toList := by
  simp only [String.toList_append, List.mem_append, not_or]
  exact ⟨⟨⟨by decide, by decide⟩, escape_notMem_padLeft total⟩, by decide⟩

theorem isTame_of_mem_countSpans {status : Status} {count : Nat} {s : Span}
    (hs : s ∈ countSpans status count) : s.IsTame := by
  simp only [countSpans, List.mem_cons, List.not_mem_nil, or_false] at hs
  rcases hs with rfl | rfl | rfl
  · exact isTame_plain (by decide)
  · exact (isTame_status status).2.2
  · have hsymbol : '\x1b' ∉ (symbol status).toList := by
      cases status <;> decide
    apply isTame_plain
    simp only [String.toList_append, List.mem_append, not_or]
    exact ⟨⟨⟨escape_notMem_padLeft count, by decide⟩, hsymbol⟩, by decide⟩

theorem isTame_verdictSpan (passed : Bool) : (verdictSpan passed).IsTame := by
  rw [verdictSpan]
  split
  · exact isTame_styled (by decide) (by decide)
  · exact isTame_styled (by decide) (by decide)

/-- The totals are tame, since they are made of digits and fixed words. -/
theorem isTame_of_mem_totalSpans {s : Span} (hs : s ∈ totalSpans results) : s.IsTame := by
  simp only [totalSpans, List.mem_append, List.mem_cons, List.not_mem_nil, or_false] at hs
  rcases hs with ((((rfl | rfl) | hs) | hs) | hs) | rfl | rfl | rfl | rfl
  · exact isTame_styled (by decide) (by decide)
  · exact isTame_plain (by decide)
  · exact isTame_of_mem_countSpans hs
  · exact isTame_of_mem_countSpans hs
  · exact isTame_of_mem_countSpans hs
  · exact isTame_plain (escape_notMem_totalRow _)
  · exact isTame_plain (by decide)
  · exact isTame_verdictSpan _
  · exact isTame_plain (by decide)

/-- So is all of the summary. -/
theorem isTame_of_mem_spans
    (hescape : ∀ r ∈ results, '\x1b' ∉ r.name.toList ∧ '\x1b' ∉ r.details.toList)
    (hfeed : ∀ r ∈ results, '\n' ∉ r.name.toList) : ∀ s ∈ spans results, s.IsTame := by
  intro s hs
  rw [spans, List.append_assoc] at hs
  -- the heading, then the results, then the totals
  rcases List.mem_append.1 hs with hs | hs
  · simp only [List.mem_cons, List.not_mem_nil, or_false] at hs
    rcases hs with rfl | rfl | rfl
    · exact isTame_styled (by decide) (by decide)
    · exact isTame_plain (by decide)
    · exact isTame_plain (by decide)
  · rcases List.mem_append.1 hs with hs | hs
    · obtain ⟨r, hr, hs⟩ := List.mem_flatMap.1 hs
      exact isTame_of_mem_resultSpans (hescape r hr).1 (hfeed r hr) (hescape r hr).2 hs
    · exact isTame_of_mem_totalSpans hs

/-- The coloured summary without its escape sequences is the plain one, if no escape character is in the
names and details of the results.  And if no line ends in a name, then behind every sequence that sets an
attribute comes the one that resets all, before the line ends. -/
theorem colour_is_decoration (results : List CheckResult)
    (hescape : ∀ r ∈ results, '\x1b' ∉ r.name.toList ∧ '\x1b' ∉ r.details.toList)
    (hfeed : ∀ r ∈ results, '\n' ∉ r.name.toList) :
    shown (Summary.text true results).toList = (Summary.text false results).toList ∧
      IsClosed (Terminal.signs (Summary.text true results).toList) := by
  have htame := isTame_of_mem_spans hescape hfeed
  rw [Summary.text, Summary.text, toList_paintAll, toList_paintAll]
  exact ⟨shown_painted fun s hs => (htame s hs).escape, isClosed_painted htame⟩

/-- What looks like the rest of an escape sequence is a detail like any other. -/
theorem colour_is_decoration_on_bracketed_details :
    let results : List CheckResult := [⟨"Docstring Check", .failed, "missing:\n\n- a.py [31m\r\nx"⟩]
    ((∀ r ∈ results, '\x1b' ∉ r.name.toList ∧ '\x1b' ∉ r.details.toList) ∧
      ∀ r ∈ results, '\n' ∉ r.name.toList) ∧
    shown (Summary.text true results).toList = (Summary.text false results).toList ∧
      IsClosed (Terminal.signs (Summary.text true results).toList) := by
  intro results
  have hescape : ∀ r ∈ results, '\x1b' ∉ r.name.toList ∧ '\x1b' ∉ r.details.toList := by decide
  have hfeed : ∀ r ∈ results, '\n' ∉ r.name.toList := by decide
  exact ⟨⟨hescape, hfeed⟩, colour_is_decoration results hescape hfeed⟩

end Summary

end QualityGate
