/-
Comments in a text that is searched for names.

Blocks between triple quotes are cut out first.  A gap without quotes is never cut in two: whatever stands
in it, it is kept whole or dropped whole, and the rest of the text is cut in the same places
(`dropBlocks_gap`).  That holds of both kinds of quotes, so a line without quotes reaches the step that
drops comments as it is, or not at all.

Comments are dropped line by line (`dropComments_append_feed`), and nothing is left of a line that is one.
So a line that is a comment gives the same text as an empty line, and the same names
(`names_beside_comment`).
-/
import QualityGate.Analysis.TextScan
import QualityGate.Proofs.Text.Cut
import QualityGate.Proofs.Text.Occurrence

namespace QualityGate.TextScan

variable {quote : Char} {s t gap comment before inside body rest : List Char}

/-! ### Blocks between triple quotes -/

theorem dropBlocks_of_none (h : Text.around? (tripleQuote quote) s = none) : dropBlocks quote s = s := by
  rw [dropBlocks]
  split
  · rfl
  · next heq => simp [h] at heq

/-- A block that is never closed is none, and the text stays as it is. -/
theorem dropBlocks_of_open (h : Text.around? (tripleQuote quote) s = some (before, inside))
    (hopen : Text.around? (tripleQuote quote) inside = none) : dropBlocks quote s = s := by
  rw [dropBlocks]
  split
  · rfl
  · next heq =>
    rw [h] at heq
    obtain ⟨rfl, rfl⟩ := Prod.mk.inj (Option.some.inj heq)
    split
    · rfl
    · next heq => simp [hopen] at heq

/-- A block is dropped with its quotes, and the text behind it is searched in turn. -/
theorem dropBlocks_of_block (h : Text.around? (tripleQuote quote) s = some (before, inside))
    (hclose : Text.around? (tripleQuote quote) inside = some (body, rest)) :
    dropBlocks quote s = before ++ dropBlocks quote rest := by
  rw [dropBlocks]
  split
  · next heq => simp [h] at heq
  · next heq =>
    rw [h] at heq
    obtain ⟨rfl, rfl⟩ := Prod.mk.inj (Option.some.inj heq)
    split
    · next heq => simp [hclose] at heq
    · next heq =>
      rw [hclose] at heq
      obtain ⟨rfl, rfl⟩ := Prod.mk.inj (Option.some.inj heq)
      rfl

/-- A gap in a text: characters that are not the quote, at least one. -/
structure IsGap (quote : Char) (gap : List Char) : Prop where
  ne_nil : gap ≠ []
  notMem : quote ∉ gap

/-- A block opens in the text before the gap or behind the gap, not across it. -/
theorem around?_quote_append_gap (hgap : IsGap quote gap)
    (h : Text.around? (tripleQuote quote) s = none) (t : List Char) :
    Text.around? (tripleQuote quote) (s ++ gap ++ t) =
      (Text.around? (tripleQuote quote) t).map fun r => (s ++ gap ++ r.1, r.2) := by
  apply Text.around?_append_gap (List.cons_ne_nil _ _) h hgap.ne_nil
  intro c hc hquote
  simp only [List.mem_cons, List.not_mem_nil, or_false, or_self] at hquote
  exact hgap.notMem (hquote ▸ hc)

/-- Without a block on the left of the gap, the blocks are those on its right. -/
theorem dropBlocks_append_gap (hgap : IsGap quote gap)
    (h : Text.around? (tripleQuote quote) s = none) (t : List Char) :
    dropBlocks quote (s ++ gap ++ t) = s ++ gap ++ dropBlocks quote t := by
  have haround := around?_quote_append_gap hgap h t
  rcases hfirst : Text.around? (tripleQuote quote) t with - | ⟨before, inside⟩
  · rw [hfirst] at haround
    rw [dropBlocks_of_none haround, dropBlocks_of_none hfirst]
  · rw [hfirst, Option.map_some] at haround
    rcases hclose : Text.around? (tripleQuote quote) inside with - | ⟨body, rest⟩
    · rw [dropBlocks_of_open haround hclose, dropBlocks_of_open hfirst hclose]
    · rw [dropBlocks_of_block haround hclose, dropBlocks_of_block hfirst hclose, List.append_assoc]

/-- A gap is kept whole or dropped whole, and what is done with the text around it does not depend on
what stands in it. -/
theorem dropBlocks_gap (quote : Char) (s t : List Char) :
    (∃ s' t', ∀ gap, IsGap quote gap → dropBlocks quote (s ++ gap ++ t) = s' ++ gap ++ t') ∨
      ∃ r, ∀ gap, IsGap quote gap → dropBlocks quote (s ++ gap ++ t) = r := by
  induction hlength : s.length using Nat.strongRecOn generalizing s with
  | _ length ih =>
    rcases hfirst : Text.around? (tripleQuote quote) s with - | ⟨before, inside⟩
    · exact .inl ⟨s, dropBlocks quote t, fun gap hgap => dropBlocks_append_gap hgap hfirst t⟩
    · have haround (gap : List Char) : Text.around? (tripleQuote quote) (s ++ gap ++ t) =
          some (before, inside ++ gap ++ t) := by
        rw [List.append_assoc, Text.around?_append_of_some hfirst, List.append_assoc]
      rcases hclose : Text.around? (tripleQuote quote) inside with - | ⟨body, rest⟩
      · -- a block is open where the gap starts: it ends behind the gap, or nowhere
        rcases hend : Text.around? (tripleQuote quote) t with - | ⟨body, rest⟩
        · refine .inl ⟨s, t, fun gap hgap => dropBlocks_of_open (haround gap) ?_⟩
          rw [around?_quote_append_gap hgap hclose, hend, Option.map_none]
        · refine .inr ⟨before ++ dropBlocks quote rest, fun gap hgap => ?_⟩
          apply dropBlocks_of_block (haround gap)
          rw [around?_quote_append_gap hgap hclose, hend, Option.map_some]
      · -- the first block ends before the gap
        have hblock (gap : List Char) : dropBlocks quote (s ++ gap ++ t) =
            before ++ dropBlocks quote (rest ++ gap ++ t) := by
          apply dropBlocks_of_block (haround gap)
          rw [List.append_assoc, Text.around?_append_of_some hclose, List.append_assoc]
        have hshorter : rest.length < length := by
          have hs := congrArg List.length (Text.eq_append_of_around? hfirst)
          have hinside := congrArg List.length (Text.eq_append_of_around? hclose)
          simp only [tripleQuote, List.length_append, List.length_cons, List.length_nil] at hs hinside
          omega
        rcases ih rest.length hshorter rest rfl with ⟨s', t', hkept⟩ | ⟨r, hdropped⟩
        · refine .inl ⟨before ++ s', t', fun gap hgap => ?_⟩
          rw [hblock, hkept gap hgap]
          simp only [List.append_assoc]
        · exact .inr ⟨before ++ r, fun gap hgap => by rw [hblock, hdropped gap hgap]⟩

/-- Both kinds of blocks: a gap without quotes is kept whole or dropped whole. -/
theorem dropBlocks_dropBlocks_gap (s t : List Char) :
    (∃ s' t', ∀ gap, IsGap '\"' gap → IsGap '\'' gap →
        dropBlocks '\'' (dropBlocks '\"' (s ++ gap ++ t)) = s' ++ gap ++ t') ∨
      ∃ r, ∀ gap, IsGap '\"' gap → IsGap '\'' gap →
        dropBlocks '\'' (dropBlocks '\"' (s ++ gap ++ t)) = r := by
  rcases dropBlocks_gap '\"' s t with ⟨s', t', hkept⟩ | ⟨r, hdropped⟩
  · rcases dropBlocks_gap '\'' s' t' with ⟨s'', t'', hkept'⟩ | ⟨r, hdropped⟩
    · exact .inl ⟨s'', t'', fun gap hdouble hsingle => by rw [hkept gap hdouble, hkept' gap hsingle]⟩
    · exact .inr ⟨r, fun gap hdouble hsingle => by rw [hkept gap hdouble, hdropped gap hsingle]⟩
  · exact .inr ⟨dropBlocks '\'' r, fun gap hdouble _ => by rw [hdropped gap hdouble]⟩

/-! ### Comments -/

/-- Comments are dropped line by line. -/
theorem dropComments_append_feed (s t : List Char) :
    dropComments (s ++ '\n' :: t) = dropComments s ++ '\n' :: dropComments t := by
  have hne (s : List Char) :
      (Text.splitOn '\n' s).map (fun line => line.takeWhile (· ≠ '#')) ≠ [] :=
    mt List.map_eq_nil_iff.1 (Text.splitOn_ne_nil '\n' s)
  simp only [dropComments]
  rw [Text.splitOn_append_cons, List.map_append, Text.joinWith_append (hne s) (hne t),
    List.append_assoc, List.singleton_append]

theorem dropComments_comment (h : '\n' ∉ comment) : dropComments ('#' :: comment) = [] := by
  have hfeed : '\n' ∉ '#' :: comment := by
    intro hmem
    rcases List.mem_cons.1 hmem with heq | hmem
    · exact absurd heq (by decide)
    · exact h hmem
  rw [dropComments, Text.splitOn_of_notMem hfeed]
  rfl

/-- A line that is a comment leaves what an empty line leaves. -/
theorem stripped_beside_comment (pre post : List Char) (hfeed : '\n' ∉ comment)
    (hdouble : '\"' ∉ comment) (hsingle : '\'' ∉ comment) :
    stripped (pre ++ ('\n' :: '#' :: comment ++ ['\n']) ++ post) =
      stripped (pre ++ ['\n', '\n'] ++ post) := by
  have hgap (quote : Char) (hnl : quote ≠ '\n') (hhash : quote ≠ '#') (hquote : quote ∉ comment) :
      IsGap quote ('\n' :: '#' :: comment ++ ['\n']) ∧ IsGap quote ['\n', '\n'] := by
    refine ⟨⟨List.cons_ne_nil _ _, ?_⟩, ⟨List.cons_ne_nil _ _, ?_⟩⟩ <;> simp [*]
  obtain ⟨hdouble, hdouble'⟩ := hgap '\"' (by decide) (by decide) hdouble
  obtain ⟨hsingle, hsingle'⟩ := hgap '\'' (by decide) (by decide) hsingle
  simp only [stripped]
  -- the gap is kept by the blocks of both quotes, or it stood inside of one and is gone with it
  rcases dropBlocks_dropBlocks_gap pre post with ⟨s, t, hkept⟩ | ⟨r, hdropped⟩
  · rw [hkept _ hdouble hsingle, hkept _ hdouble' hsingle']
    -- where it is kept, the comment is a line of its own and leaves an empty one
    have hcomment : s ++ ('\n' :: '#' :: comment ++ ['\n']) ++ t =
        s ++ '\n' :: ('#' :: comment ++ '\n' :: t) := by simp
    have hempty : s ++ ['\n', '\n'] ++ t = s ++ '\n' :: ([] ++ '\n' :: t) := by simp
    rw [hcomment, hempty]
    simp only [dropComments_append_feed, dropComments_comment hfeed]
    rfl
  · rw [hdropped _ hdouble hsingle, hdropped _ hdouble' hsingle']

/-- A comment that stands on a line of its own, holds no quotes and may hold anything else, gives the
names that an empty line gives: whatever quotes and blocks are before and behind it, and whatever it
seems to declare. -/
theorem names_beside_comment (pre comment post : List Char) (hfeed : '\n' ∉ comment)
    (hdouble : '\"' ∉ comment) (hsingle : '\'' ∉ comment) :
    names (pre ++ "\n#".toList ++ comment ++ "\n".toList ++ post) =
      names (pre ++ "\n\n".toList ++ post) := by
  have hshape : pre ++ "\n#".toList ++ comment ++ "\n".toList ++ post =
      pre ++ ('\n' :: '#' :: comment ++ ['\n']) ++ post := by simp
  have hstripped := stripped_beside_comment pre post hfeed hdouble hsingle
  rw [hshape]
  simp only [names, hstripped]
  rfl

/-- A declaration in a comment between a block and an open one is not found. -/
theorem names_beside_commented_class :
    let pre := "'''\nclass Doc:\n''' x = 1".toList
    let comment := " class Old(: yY = 2 # def".toList
    let post := "def f(:\n\"\"\" z = 3".toList
    ('\n' ∉ comment ∧ '\"' ∉ comment ∧ '\'' ∉ comment) ∧
      names (pre ++ "\n#".toList ++ comment ++ "\n".toList ++ post) =
        [(.function, "f"), (.variable, "x"), (.variable, "z")] := by
  intro pre comment post
  have hfeed : '\n' ∉ comment := by decide
  have hdouble : '\"' ∉ comment := by decide
  have hsingle : '\'' ∉ comment := by decide
  refine ⟨⟨hfeed, hdouble, hsingle⟩, ?_⟩
  rw [names_beside_comment pre comment post hfeed hdouble hsingle]
  decide +kernel

end QualityGate.TextScan
