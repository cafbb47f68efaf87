/-
The lines that a function has and the lines that its file has.

One count goes over the bytes of a file, the other over the rows of a tree.  `Point.IsAt` and
`Tree.StandsIn` say how the two belong together: a row counts the line feeds before an offset, column
zero is where a line starts, and behind a last line feed there is nothing.

What stands before the end of such a file is on one of its lines (`IsAt.row_lt_countLines`), so no token
ends, and no node starts, on a line that the file does not have (`StandsIn.lastLine_le`).  A file with a
function that is longer than a limit is itself longer than that limit (`file_is_long_of_function`).
-/
import QualityGate.Proofs.Check.FunctionLength
import QualityGate.Proofs.Check.SyntaxError
import QualityGate.Proofs.Disk.Resolution

namespace QualityGate

/-! ### Line feeds before an offset -/

section Feeds

variable {bytes : List UInt8} {i : Nat}

/-- A file whose last byte is a line feed has as many lines as line feeds. -/
theorem countLines_of_last_feed (h : bytes.getLast? = some 10) : countLines bytes = bytes.count 10 := by
  rw [countLines, h]
  rfl

/-- Where no line feed is last, the rest behind the last one is a line too. -/
theorem countLines_of_rest (hne : bytes ≠ []) (h : bytes.getLast? ≠ some 10) :
    countLines bytes = bytes.count 10 + 1 := by
  have hlast : bytes.getLast? = some (bytes.getLast hne) := List.getLast?_eq_some_getLast hne
  have hrest : bytes.getLast hne ≠ 10 := by
    intro hfeed
    rw [hlast, hfeed] at h
    exact h rfl
  simp only [countLines, hlast, if_neg hrest]

theorem count_take_le : (bytes.take i).count 10 ≤ bytes.count 10 :=
  (List.take_sublist i bytes).count_le 10

/-- Where a line feed is last, one of them is not before any offset but the end. -/
theorem count_take_lt (h : bytes.getLast? = some 10) (hi : i < bytes.length) :
    (bytes.take i).count 10 < bytes.count 10 := by
  have hlast : (bytes.drop i).getLast? = some 10 := by
    rw [List.getLast?_drop, if_neg (Nat.not_le_of_lt hi), h]
  have hpos : 0 < (bytes.drop i).count 10 :=
    List.count_pos_iff.2 (List.mem_of_getLast? hlast)
  have hsplit : (bytes.take i).count 10 + (bytes.drop i).count 10 = bytes.count 10 := by
    rw [← List.count_append, List.take_append_drop]
  omega

end Feeds

namespace Python

/-! ### Places in the bytes -/

/-- The place is that of an offset: its row counts the line feeds before the offset, and it is in
column zero where the last byte before the offset, if there is one, is a line feed. -/
structure Point.IsAt (bytes : List UInt8) (i : Nat) (p : Point) : Prop where
  row : p.row = (bytes.take i).count 10
  column : p.column = 0 ↔ (bytes.take i).getLast?.all (· = 10) = true

instance (bytes : List UInt8) (i : Nat) (p : Point) : Decidable (p.IsAt bytes i) :=
  decidable_of_iff (p.row = (bytes.take i).count 10 ∧
      (p.column = 0 ↔ (bytes.take i).getLast?.all (· = 10) = true))
    ⟨fun h => ⟨h.1, h.2⟩, fun h => ⟨h.row, h.column⟩⟩

/-- The offset is the end of a file whose last byte is a line feed. -/
def IsBehindLastFeed (bytes : List UInt8) (i : Nat) : Prop :=
  i = bytes.length ∧ bytes.getLast? = some 10

instance (bytes : List UInt8) (i : Nat) : Decidable (IsBehindLastFeed bytes i) :=
  inferInstanceAs (Decidable (_ ∧ _))

/-- A node stands in the bytes from one offset to another, and it does not stand, without any text,
behind the last line feed. -/
def Tree.StandsAt (bytes : List UInt8) (t : Tree) : Prop :=
  ∃ i < bytes.length + 1, ∃ j < bytes.length + 1, i ≤ j ∧ t.first.IsAt bytes i ∧ t.last.IsAt bytes j ∧
    ¬ (i = j ∧ IsBehindLastFeed bytes j)

/-- All nodes of the tree stand in the bytes. -/
def Tree.StandsIn (bytes : List UInt8) (tree : Tree) : Prop :=
  ∀ t ∈ tree.preorder, t.StandsAt bytes

instance (bytes : List UInt8) (tree : Tree) : Decidable (tree.StandsIn bytes) :=
  inferInstanceAs (Decidable (∀ t ∈ tree.preorder,
    ∃ i < bytes.length + 1, ∃ j < bytes.length + 1, i ≤ j ∧ t.first.IsAt bytes i ∧
      t.last.IsAt bytes j ∧ ¬ (i = j ∧ IsBehindLastFeed bytes j)))

variable {bytes : List UInt8} {i : Nat} {p : Point} {t tree : Tree}

/-- Before the end of a file, and at the end of a rest, a place is on a line of the file. -/
theorem Point.IsAt.row_lt_countLines (h : p.IsAt bytes i) (hne : bytes ≠ []) (hi : i ≤ bytes.length)
    (hbefore : ¬ IsBehindLastFeed bytes i) : p.row < countLines bytes := by
  rw [h.row]
  by_cases hlast : bytes.getLast? = some 10
  · have hlt : i < bytes.length := Nat.lt_of_le_of_ne hi fun heq => hbefore ⟨heq, hlast⟩
    rw [countLines_of_last_feed hlast]
    exact count_take_lt hlast hlt
  · rw [countLines_of_rest hne hlast]
    exact Nat.lt_succ_of_le count_take_le

/-- The end of a file behind its last line feed is in column zero of the row after the last line. -/
theorem Point.IsAt.behind_last_feed (h : p.IsAt bytes i) (hbehind : IsBehindLastFeed bytes i) :
    p.row = countLines bytes ∧ p.column = 0 := by
  obtain ⟨rfl, hlast⟩ := hbehind
  have hall : bytes.take bytes.length = bytes := List.take_length
  refine ⟨?_, h.column.2 ?_⟩
  · rw [h.row, hall, countLines_of_last_feed hlast]
  · rw [hall, hlast]
    rfl

/-- A node starts on a line of the file. -/
theorem Tree.StandsAt.firstLine_le (h : t.StandsAt bytes) (hne : bytes ≠ []) :
    t.firstLine ≤ countLines bytes := by
  obtain ⟨i, -, j, hj, hij, hfirst, -, htext⟩ := h
  have hbefore : ¬ IsBehindLastFeed bytes i := by
    rintro ⟨hend, hlast⟩
    -- nothing is left for a text of the node
    have heq : i = j := by omega
    exact htext ⟨heq, heq ▸ ⟨hend, hlast⟩⟩
  exact hfirst.row_lt_countLines hne (by omega) hbefore

/-- A node ends on a line of the file: one that reaches the end behind the last line feed is in column
zero there, and has started on a line above. -/
theorem Tree.StandsAt.endLine_le (h : t.StandsAt bytes) (hne : bytes ≠ []) :
    t.endLine ≤ countLines bytes := by
  have hstart : t.first.row < countLines bytes := h.firstLine_le hne
  obtain ⟨i, -, j, hj, -, -, hlast, -⟩ := h
  rw [endLine]
  -- a tree that ends behind the last feed ends in column zero, on a line that does not count
  by_cases hbehind : IsBehindLastFeed bytes j
  · obtain ⟨hrow, hcolumn⟩ := hlast.behind_last_feed hbehind
    have hup : t.first.row < t.last.row := hrow ▸ hstart
    rw [if_pos ⟨hcolumn, hup⟩]
    exact Nat.le_of_eq hrow
  · have hrow : t.last.row < countLines bytes :=
      hlast.row_lt_countLines hne (Nat.le_of_lt_succ hj) hbehind
    split <;> omega

/-- No token of a node ends on a line that the file does not have. -/
theorem Tree.StandsIn.lastLine_le (h : tree.StandsIn bytes) (hne : bytes ≠ []) (ht : t ∈ tree.preorder) :
    t.lastLine ≤ countLines bytes := by
  rw [lastLine_le_iff]
  refine ⟨(h t ht).firstLine_le hne, ?_⟩
  intro leaf hleaf _
  exact (h leaf (mem_preorder_trans hleaf ht)).endLine_le hne

theorem Tree.span_le_lastLine (t : Tree) : t.span ≤ t.lastLine := by
  have hspan := firstLine_add_span t
  have hfirst : 1 ≤ t.firstLine := Nat.succ_le_succ (Nat.zero_le _)
  omega

end Python

namespace Check

open Python (Tree)

/-- What is said of a file that is too long. -/
def tooManyLines (limit : Nat) (shown : Path) (bytes : List UInt8) : Finding where
  path := shown
  line := none
  element := none
  message := (countLines bytes).repr ++ " lines (max " ++ limit.repr ++ ")"

variable {ctx : Context} {path : Path} {bytes : List UInt8} {tree : Tree} {limit : Nat}

theorem longFile_eq (hread : ctx.disk.read path = .ok bytes) :
    longFile limit ctx path =
      if limit < countLines bytes then [tooManyLines limit (ctx.shown path) bytes] else [] := by
  rw [longFile, hread]
  rfl

/-- A file without bytes holds no function. -/
theorem ne_nil_of_functionDefinition (hread : ctx.disk.read path = .ok bytes)
    (hmodule : ctx.readModule path = .ok tree) {t : Tree} (ht : t ∈ tree.preorder)
    (hkind : t.kind = .functionDefinition) : bytes ≠ [] := by
  rintro rfl
  -- the empty text has a tree without functions
  have hdecode : Text.decode? [] = some [] := by decide +kernel
  have htext : ctx.disk.readText path = .ok [] := by
    rw [Disk.readText_of_read hread, hdecode]
  have hvalid : (Tree.ofText []).invalidLine? = none := by decide +kernel
  have htree : tree = Tree.ofText [] := by
    rw [readModule_of_readText htext, hvalid] at hmodule
    exact (Except.ok.inj hmodule).symm
  have hnone : ∀ t ∈ (Tree.ofText []).preorder, t.kind ≠ .functionDefinition := by decide +kernel
  exact hnone t (htree ▸ ht) hkind

/-- Where the nodes of a tree stand in the bytes of a file, every node of it, unless the file is empty,
has its last line among those of the file, and so no more lines than the file.  In a file that holds
this tree that is so for every function; and if the check of function lengths reports one of them, then
the check of file lengths with the same limit reports the file. -/
theorem file_is_long_of_function (bytes : List UInt8) (tree : Tree) (h : tree.StandsIn bytes) :
    (bytes ≠ [] → ∀ t ∈ tree.preorder,
      t.lastLine ≤ countLines bytes ∧ t.span ≤ countLines bytes) ∧
    ∀ ctx path, ctx.disk.read path = .ok bytes → ctx.readModule path = .ok tree →
      (∀ t ∈ tree.preorder, t.kind = .functionDefinition →
        t.lastLine ≤ countLines bytes ∧ t.span ≤ countLines bytes) ∧
      ∀ limit, (Analyzer.functionLength limit).analyse ctx path ≠ [] →
        (Analyzer.fileLength limit).analyse ctx path =
          [tooManyLines limit (ctx.shown path) bytes] := by
  have hlines (hne : bytes ≠ []) (t : Tree) (ht : t ∈ tree.preorder) :
      t.lastLine ≤ countLines bytes ∧ t.span ≤ countLines bytes := by
    have hlast := h.lastLine_le hne ht
    exact ⟨hlast, Nat.le_trans t.span_le_lastLine hlast⟩
  refine ⟨hlines, ?_⟩
  intro ctx path hread hmodule
  have hfunction (t : Tree) (ht : t ∈ tree.preorder) (hkind : t.kind = .functionDefinition) :
      t.lastLine ≤ countLines bytes ∧ t.span ≤ countLines bytes :=
    hlines (ne_nil_of_functionDefinition hread hmodule ht hkind) t ht
  refine ⟨hfunction, ?_⟩
  intro limit hreported
  have hlong : tree.longFunctions limit ≠ [] := by
    intro hnil
    apply hreported
    rw [Analyzer.analyse, inModule, hmodule]
    show tree.visit.filterMap (longFunction? limit (ctx.shown path)) = []
    rw [filterMap_longFunction?, hnil, List.map_nil]
  obtain ⟨t, ht⟩ := List.exists_mem_of_ne_nil _ hlong
  obtain ⟨ht, hover⟩ := List.mem_filter.1 ht
  obtain ⟨hkind, hspan⟩ := Tree.isLong_iff.1 hover
  have hover' : limit < countLines bytes := Nat.lt_of_lt_of_le hspan (hfunction t ht hkind).2
  show longFile limit ctx path = _
  rw [longFile_eq hread, if_pos hover']

/-- A function with a string over two lines, the last of them without a line feed, makes three lines. -/
theorem file_is_long_of_string :
    let text := "def f():\r\n  '''é\n'''".toList
    let bytes := Text.encode text
    let path : Path := ⟨"/p/a.py"⟩
    let d := Disk.empty.putDeep ["a.py".toList, "p".toList] (.file bytes)
    let ctx : Context := ⟨⟨"/p"⟩, [⟨""⟩], .standard, d⟩
    ((Tree.ofText text).StandsIn bytes ∧ ctx.disk.read path = .ok bytes ∧
      ctx.readModule path = .ok (Tree.ofText text) ∧
      (Analyzer.functionLength 2).analyse ctx path ≠ []) ∧
    (Analyzer.fileLength 2).analyse ctx path = [tooManyLines 2 (ctx.shown path) bytes] ∧
    (tooManyLines 2 (ctx.shown path) bytes).display = "a.py - 3 lines (max 2)" := by
  intro text bytes path d ctx
  have h : (Tree.ofText text).StandsIn bytes := by decide +kernel
  have hsome : (ctx.disk.read path).toOption = some bytes := by decide +kernel
  have hdecode : Text.decode? bytes = some text := by decide +kernel
  have hvalid : (Tree.ofText text).invalidLine? = none := by decide +kernel
  have hlong : (Tree.ofText text).visit.filterMap (longFunction? 2 (ctx.shown path)) ≠ [] := by
    decide +kernel
  have hshown : (tooManyLines 2 (ctx.shown path) bytes).display = "a.py - 3 lines (max 2)" := by
    decide +kernel
  -- from here on only the facts above are used
  clear_value text bytes path ctx
  have hread : ctx.disk.read path = .ok bytes := eq_ok_of_toOption hsome
  have htext : ctx.disk.readText path = .ok text := by
    rw [Disk.readText_of_read hread, hdecode]
  have hmodule : ctx.readModule path = .ok (Tree.ofText text) := by
    rw [readModule_of_readText htext, hvalid]
  have hreported : (Analyzer.functionLength 2).analyse ctx path ≠ [] := by
    rw [Analyzer.analyse, inModule, hmodule]
    exact hlong
  obtain ⟨-, hfile⟩ := file_is_long_of_function bytes (Tree.ofText text) h
  exact ⟨⟨h, hread, hmodule, hreported⟩, (hfile ctx path hread hmodule).2 2 hreported, hshown⟩

end Check

end QualityGate
