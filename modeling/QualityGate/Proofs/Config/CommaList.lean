/-
Lists with commas between their items.

A text is cut at its commas, the pieces are trimmed and the empty ones dropped.  What remains are items
(`IsItem`): not empty, without a comma, and trimmed already.  Nothing happens to a list of items, so such
a list is read back from the text that joins it (`splitList_joinList`).

Strings that merely have no comma are read back tidied (`splitList_joinList_eq_tidyList`), which is what
an array of them means.
-/
import QualityGate.Proofs.Config.Format
import QualityGate.Proofs.Text.Trim

namespace QualityGate.Config

variable {item text : String} {items : List String}

/-- A string that can stand between commas as it is. -/
structure IsItem (item : String) : Prop where
  ne_empty : item ≠ ""
  noComma : ',' ∉ item.toList
  trimmed_eq : Text.trimmed item = item

instance (item : String) : Decidable (IsItem item) :=
  decidable_of_iff (item ≠ "" ∧ ',' ∉ item.toList ∧ Text.trimmed item = item)
    ⟨fun ⟨h₁, h₂, h₃⟩ => ⟨h₁, h₂, h₃⟩, fun ⟨h₁, h₂, h₃⟩ => ⟨h₁, h₂, h₃⟩⟩

/-! ### Joining and cutting -/

theorem toList_joinList (items : List String) :
    (joinList items).toList = Text.joinWith [','] (items.map String.toList) := by
  induction items with
  | nil => rfl
  | cons item rest ih =>
    cases rest with
    | nil =>
      rw [joinList, String.intercalate_singleton]
      rfl
    | cons next more =>
      rw [joinList] at ih ⊢
      rw [String.intercalate_cons_cons, String.toList_append, String.toList_append, ih]
      rfl

/-- Strings without commas that are joined are cut apart again, and tidied. -/
theorem splitList_joinList_eq_tidyList (h : ∀ item ∈ items, ',' ∉ item.toList) :
    splitList (joinList items) = tidyList items := by
  by_cases hne : items = []
  · -- the empty text has one piece, which is dropped
    rw [hne]
    rfl
  · apply splitList_of_arePieces
    exact ⟨hne, h, toList_joinList items⟩

theorem tidyList_eq_self (h : ∀ item ∈ items, IsItem item) : tidyList items = items := by
  have htrimmed : items.map Text.trimmed = items := by
    conv_rhs => rw [← List.map_id items]
    exact List.map_congr_left fun item hitem => (h item hitem).trimmed_eq
  rw [tidyList, htrimmed, List.filter_eq_self]
  exact fun item hitem => decide_eq_true (h item hitem).ne_empty

/-- Items that are joined are read back. -/
theorem splitList_joinList (h : ∀ item ∈ items, IsItem item) : splitList (joinList items) = items := by
  rw [splitList_joinList_eq_tidyList fun item hitem => (h item hitem).noComma, tidyList_eq_self h]

/-! ### Items -/

theorem trimmed_trimmed (s : String) : Text.trimmed (Text.trimmed s) = Text.trimmed s := by
  rw [Text.trimmed, Text.trimmed, String.toList_ofList, Text.trim_trim]

theorem isItem_of_mem_splitList (h : item ∈ splitList text) : IsItem item := by
  rw [splitList_eq, tidyList, List.map_map, List.mem_filter, List.mem_map] at h
  obtain ⟨⟨piece, hpiece, rfl⟩, hne⟩ := h
  refine ⟨of_decide_eq_true hne, ?_, trimmed_trimmed _⟩
  -- a trimmed piece is a part of the piece, and the cuts leave no comma in a piece
  intro hcomma
  rw [Function.comp_apply, Text.trimmed, String.toList_ofList, String.toList_ofList] at hcomma
  exact Text.notMem_of_mem_splitOn hpiece ((Text.trim_isInfix piece).subset hcomma)

/-- Two lists of items are the same if they are written alike. -/
theorem eq_of_joinList_eq {others : List String} (hitems : ∀ item ∈ items, IsItem item)
    (hothers : ∀ item ∈ others, IsItem item) (h : joinList items = joinList others) :
    items = others := by
  rw [← splitList_joinList hitems, h, splitList_joinList hothers]

end QualityGate.Config
