/-
Where a file that is no valid Python is blamed.

The first refused node of a walk tells the line.  In an ordered tree the nodes in preorder start one after
the other, so that line is the least on which a refused node starts (`invalidLine?_eq_some_iff`), whichever
way the tree was built.

The checks of function lengths and docstrings ask for this line and report it and nothing else; the check
of names asks whether there is one, and searches the text then.  All of them decide by the same nodes
(`syntax_errors_reported_alike`).
-/
import QualityGate.Proofs.Check.Analyzer
import QualityGate.Proofs.Python.Order
import QualityGate.Proofs.Text.Digit

namespace QualityGate

namespace Python.Tree

/-- A node that a tree of valid source does not have. -/
def IsRefused (t : Tree) : Prop :=
  t.kind = .error ∨ t.kind = .missing ∨ t.kind = .printStatement ∨ t.kind = .execStatement

/-- A refused node starts on the line, and none on a line before. -/
structure IsFaultLine (tree : Tree) (line : Nat) : Prop where
  starts : ∃ t ∈ tree.preorder, t.IsRefused ∧ t.firstLine = line
  least : ∀ t ∈ tree.preorder, t.IsRefused → line ≤ t.firstLine

variable {t tree : Tree} {line line' : Nat}

theorem isInvalid_iff : t.isInvalid = true ↔ t.IsRefused := by
  rw [isInvalid, IsRefused]
  rcases t.kind with - | - <;> simp

theorem IsFaultLine.unique (h : tree.IsFaultLine line) (h' : tree.IsFaultLine line') :
    line = line' := by
  obtain ⟨t, ht, hrefused, rfl⟩ := h.starts
  obtain ⟨t', ht', hrefused', rfl⟩ := h'.starts
  exact Nat.le_antisymm (h.least t' ht' hrefused') (h'.least t ht hrefused)

theorem firstInvalid?_eq_none_iff :
    tree.firstInvalid? = none ↔ ¬ ∃ t ∈ tree.preorder, t.IsRefused := by
  rw [firstInvalid?, visit_eq_preorder, List.find?_eq_none]
  simp only [isInvalid_iff, not_exists, not_and]

theorem invalidLine?_eq_none_iff :
    tree.invalidLine? = none ↔ ¬ ∃ t ∈ tree.preorder, t.IsRefused := by
  rw [invalidLine?, Option.map_eq_none_iff, firstInvalid?_eq_none_iff]

theorem isValid_iff : tree.isValid = true ↔ ¬ ∃ t ∈ tree.preorder, t.IsRefused := by
  rw [isValid, Option.isNone_iff_eq_none, firstInvalid?_eq_none_iff]

/-- The refused node that comes first in preorder starts first. -/
theorem isFaultLine_of_invalidLine? (h : tree.IsOrdered) (hline : tree.invalidLine? = some line) :
    tree.IsFaultLine line := by
  obtain ⟨first, hfirst, rfl⟩ := Option.map_eq_some_iff.1 hline
  rw [firstInvalid?, visit_eq_preorder, List.find?_eq_some_iff_append] at hfirst
  obtain ⟨hinvalid, before, behind, hsplit, hbefore⟩ := hfirst
  refine ⟨⟨first, ?_, isInvalid_iff.1 hinvalid, rfl⟩, fun t ht hrefused => ?_⟩
  · rw [hsplit]
    exact List.mem_append_right _ List.mem_cons_self
  · have hpairwise := h.pairwise_first
    rw [hsplit, List.pairwise_append, List.pairwise_cons] at hpairwise
    rw [hsplit] at ht
    -- none of the nodes before it is refused, and no node behind it starts before it
    rcases List.mem_append.1 ht with ht | ht
    · have hnot := hbefore t ht
      rw [isInvalid_iff.2 hrefused] at hnot
      cases hnot
    · rcases List.mem_cons.1 ht with rfl | ht
      · exact Nat.le_refl _
      · exact Nat.succ_le_succ (Point.row_le_of_le (hpairwise.2.1.1 t ht))

theorem invalidLine?_eq_some_iff (h : tree.IsOrdered) :
    tree.invalidLine? = some line ↔ tree.IsFaultLine line := by
  refine ⟨isFaultLine_of_invalidLine? h, fun hfault => ?_⟩
  rcases hline : tree.invalidLine? with - | line'
  · obtain ⟨t, ht, hrefused, -⟩ := hfault.starts
    exact absurd ⟨t, ht, hrefused⟩ (invalidLine?_eq_none_iff.1 hline)
  · rw [(isFaultLine_of_invalidLine? h hline).unique hfault]

end Python.Tree

namespace Check

open Python (Tree)

variable {ctx : Context} {path : Path} {text : List Char} {line line' : Nat}

/-- The finding about a line of a file that is no valid Python. -/
def faultFinding (ctx : Context) (path : Path) (line : Nat) : Finding :=
  .ofMessage (ctx.shown path) none ("Syntax error: invalid syntax (" ++
    String.ofList (path.fileName?.getD []) ++ ", line " ++ line.repr ++ ")")

theorem faultFinding_inj (h : faultFinding ctx path line = faultFinding ctx path line') :
    line = line' := by
  have hmessage := congrArg Finding.message h
  simp only [faultFinding, Finding.ofMessage, String.append_left_inj, String.append_right_inj] at hmessage
  have hread := congrArg (fun s : String => Text.readNat? s.toList) hmessage
  simp only [Text.readNat?_repr] at hread
  exact Option.some.inj hread

theorem syntaxError_message (file : String) (line : Nat) :
    "Syntax error: " ++ Tree.invalidMessage file line =
      "Syntax error: invalid syntax (" ++ file ++ ", line " ++ line.repr ++ ")" := by
  have hstart : "Syntax error: " ++ "invalid syntax (" = "Syntax error: invalid syntax (" := by rfl
  calc "Syntax error: " ++ ("invalid syntax (" ++ file ++ ", line " ++ line.repr ++ ")")
    _ = "Syntax error: " ++ "invalid syntax (" ++ file ++ ", line " ++ line.repr ++ ")" := by
      simp only [String.append_assoc]
    _ = "Syntax error: invalid syntax (" ++ file ++ ", line " ++ line.repr ++ ")" := by
      rw [hstart]

theorem eq_ok_of_toOption {ε α : Type} {result : Except ε α} {a : α} (h : result.toOption = some a) :
    result = .ok a := by
  cases result with
  | error cause => cases h
  | ok found => exact congrArg Except.ok (Option.some.inj h)

/-- A file that can be read is a module, or the line that is blamed is reported. -/
theorem readModule_of_readText (h : ctx.disk.readText path = .ok text) :
    ctx.readModule path =
      match (Tree.ofText text).invalidLine? with
      | none => .ok (Tree.ofText text)
      | some line => .error (faultFinding ctx path line) := by
  simp only [Context.readModule, h]
  generalize Tree.ofText text = tree
  rcases tree.invalidLine? with - | line
  · rfl
  · exact congrArg (fun message => Except.error (Finding.ofMessage (ctx.shown path) none message))
      (syntaxError_message _ line)

/-! ### What the checks report -/

/-- An analysis of modules reports the blamed line of a file and nothing else, or what it finds in the
tree. -/
theorem inModule_of_readText (analyse : Path → Tree → List Finding)
    (h : ctx.disk.readText path = .ok text) :
    inModule analyse ctx path =
      match (Tree.ofText text).invalidLine? with
      | none => analyse (ctx.shown path) (Tree.ofText text)
      | some line => [faultFinding ctx path line] := by
  rw [inModule, readModule_of_readText h]
  generalize Tree.ofText text = tree
  rcases tree.invalidLine? with - | line <;> rfl

/-- An analysis whose findings are about definitions reports a line alone exactly if that line is
blamed. -/
theorem inModule_eq_fault_iff {analyse : Path → Tree → List Finding}
    (hanalyse : ∀ shown tree, ∀ f ∈ analyse shown tree, f.element ≠ none)
    (hread : ctx.disk.readText path = .ok text) (h : (Tree.ofText text).IsOrdered) :
    inModule analyse ctx path = [faultFinding ctx path line] ↔ (Tree.ofText text).IsFaultLine line := by
  rw [inModule_of_readText analyse hread, ← Tree.invalidLine?_eq_some_iff h]
  generalize Tree.ofText text = tree
  rcases tree.invalidLine? with - | line'
  · -- the finding about a line is about no definition
    have hne : analyse (ctx.shown path) tree ≠ [faultFinding ctx path line] := by
      intro heq
      exact hanalyse (ctx.shown path) tree (faultFinding ctx path line)
        (heq ▸ List.mem_singleton_self _) rfl
    simp only [hne, reduceCtorEq]
  · rw [List.singleton_inj, Option.some.injEq]
    exact ⟨faultFinding_inj, congrArg (faultFinding ctx path)⟩

/-- A tree is invalid exactly if it has a refused node, and in an ordered tree the line that is told is
the least on which one starts.  For a file with that tree the checks of function lengths and of
docstrings report this line alone, and the check of names searches the text, in exactly these cases. -/
theorem syntax_errors_reported_alike (tree : Tree) (h : tree.IsOrdered) :
    (tree.invalidLine?.isSome = true ↔ ∃ t ∈ tree.preorder, t.IsRefused) ∧
    (tree.isValid = false ↔ ∃ t ∈ tree.preorder, t.IsRefused) ∧
    (∀ line, tree.invalidLine? = some line ↔ tree.IsFaultLine line) ∧
    ∀ ctx path text, ctx.disk.readText path = .ok text → Tree.ofText text = tree →
      (∀ limit line,
        (Analyzer.functionLength limit).analyse ctx path = [faultFinding ctx path line] ↔
          tree.IsFaultLine line) ∧
      (∀ scope line, (scope.skipTests && isTestFile path) = false →
        ((Analyzer.docstring scope).analyse ctx path = [faultFinding ctx path line] ↔
          tree.IsFaultLine line)) ∧
      (let shown := ctx.shown path
        let module := (misnamed? shown none .module (String.ofList (path.stem?.getD []))).toList
        ((∃ t ∈ tree.preorder, t.IsRefused) → Analyzer.naming.analyse ctx path =
          module ++ (TextScan.names text).filterMap fun n => misnamed? shown none n.1 n.2) ∧
        ((¬ ∃ t ∈ tree.preorder, t.IsRefused) → Analyzer.naming.analyse ctx path =
          module ++ tree.allNames.filterMap fun n => misnamed? shown (some n.line) n.role n.name)) := by
  refine ⟨?_, ?_, fun line => Tree.invalidLine?_eq_some_iff h, ?_⟩
  · rw [Option.isSome_iff_ne_none, Ne, Tree.invalidLine?_eq_none_iff, Classical.not_not]
  · rw [← Bool.not_eq_true, Tree.isValid_iff, Classical.not_not]
  · rintro ctx path text hread rfl
    -- functions and docstrings are read from a module, names from any text
    refine ⟨fun limit line => ?_, fun scope line hskip => ?_, fun hrefused => ?_, fun hvalid => ?_⟩
    · rw [Analyzer.analyse]
      exact inModule_eq_fault_iff (fun _ _ _ hf => (of_mem_longFunctions hf).2) hread h
    · rw [Analyzer.analyse, undocumentedIn, hskip]
      exact inModule_eq_fault_iff (fun _ _ _ hf => (of_mem_undocumented hf).2) hread h
    · have hinvalid : ¬ (Tree.ofText text).isValid = true := fun h => Tree.isValid_iff.1 h hrefused
      simp only [Analyzer.analyse, misnamed, hread, misnamedInText, if_neg hinvalid]
    · have hvalid' : (Tree.ofText text).isValid = true := Tree.isValid_iff.2 hvalid
      simp only [Analyzer.analyse, misnamed, hread, misnamedInText, if_pos hvalid']

/-- A statement of an older language stands on the second line of a file. -/
theorem syntax_errors_of_printing_module :
    let text := "x = 1\nprint x\n".toList
    let path : Path := ⟨"/p/a.py"⟩
    let d := Disk.empty.putDeep ["a.py".toList, "p".toList] (.file (Text.encode text))
    let ctx : Context := ⟨⟨"/p"⟩, [⟨""⟩], .standard, d⟩
    ((Tree.ofText text).IsOrdered ∧ ctx.disk.readText path = .ok text) ∧
      (Tree.ofText text).IsFaultLine 2 ∧
      (Analyzer.functionLength 50).analyse ctx path = [faultFinding ctx path 2] ∧
      (faultFinding ctx path 2).display = "a.py - Syntax error: invalid syntax (a.py, line 2)" := by
  intro text path d ctx
  have h : (Tree.ofText text).IsOrdered := by decide +kernel
  have hsome : (ctx.disk.readText path).toOption = some text := by decide +kernel
  have hline : (Tree.ofText text).invalidLine? = some 2 := by decide +kernel
  have hshown : (faultFinding ctx path 2).display =
    "a.py - Syntax error: invalid syntax (a.py, line 2)" := by decide +kernel
  clear_value text path ctx
  have hread : ctx.disk.readText path = .ok text := eq_ok_of_toOption hsome
  obtain ⟨-, -, hfault, hfile⟩ := syntax_errors_reported_alike (Tree.ofText text) h
  obtain ⟨hlength, -⟩ := hfile ctx path text hread rfl
  have hfault' := (hfault 2).1 hline
  exact ⟨⟨h, hread⟩, hfault', (hlength 50 2).2 hfault', hshown⟩

end Check

end QualityGate
