/-
What the check of docstrings leaves out.

A module or a definition opens with a docstring if the first statement of its body, comments passed over,
is nothing but text (`OpensWithDocstring`).  With nothing left out, a file that is valid Python is reported
for its module, and then for each definition without a docstring, wherever it stands
(`undocumented_eq`).

Each of the two switches filters what is found without it.  Skipping a private function is a decision
about that node alone, since the walk goes on below it, so nothing inside it is lost
(`analyse_skipPrivate`); skipping a file of tests is a decision about that file alone
(`analyse_skipTests`).  `docstring_switches_filter` puts this together for all sources.
-/
import QualityGate.Proofs.Check.SyntaxError
import QualityGate.Proofs.Text.Occurrence

namespace QualityGate

namespace Python.Tree

variable {t tree : Tree}

/-! ### Docstrings -/

/-- A string whose opening marks neither a format string nor bytes. -/
def IsTextLiteral (t : Tree) : Prop :=
  t.kind = .string ∧
    ∀ opening ∈ t.children.head?, ∀ c ∈ opening.text.toList, c ∉ ['f', 'F', 'b', 'B']

/-- A text literal, or nothing but text literals side by side. -/
def IsTextValue (t : Tree) : Prop :=
  t.IsTextLiteral ∨ t.kind = .concatenatedString ∧ ∀ c ∈ t.namedChildren, c.IsTextLiteral

/-- The node is the first statement of the body: nothing but comments stands before it. -/
def IsFirstStatement (body s : Tree) : Prop :=
  ∃ before behind, body.namedChildren = before ++ s :: behind ∧ s.kind ≠ .comment ∧
    ∀ c ∈ before, c.kind = .comment

/-- Where the docstring stands: in the module itself, or in the body of the definition. -/
def body? (t : Tree) : Option Tree :=
  if t.kind = .module then some t else t.child? .body

/-- The first statement of the body is nothing but text. -/
def OpensWithDocstring (t : Tree) : Prop :=
  ∃ body ∈ t.body?, ∃ s, body.IsFirstStatement s ∧ s.kind = .expressionStatement ∧
    ∃ value, s.namedChildren = [value] ∧ value.IsTextValue

theorem isPlainString_iff :
    t.isPlainString = true ↔
      ∀ opening ∈ t.children.head?, ∀ c ∈ opening.text.toList, c ∉ ['f', 'F', 'b', 'B'] := by
  rw [isPlainString]
  rcases t.children.head? with - | opening
  · simp
  · simp [or_assoc]

theorem isText_iff : t.isText = true ↔ t.IsTextValue := by
  rw [isText, IsTextValue, IsTextLiteral]
  split
  · next hkind => simp [hkind, isPlainString_iff]
  · next hkind => simp [hkind, isPlainString_iff, IsTextLiteral]
  · next hstring hconcatenated =>
    refine iff_of_false Bool.false_ne_true ?_
    rintro (⟨hkind, -⟩ | ⟨hkind, -⟩)
    · exact hstring hkind
    · exact hconcatenated hkind

/-- A statement of text is an expression with one text as its only child. -/
theorem isTextStatement_iff :
    t.isTextStatement = true ↔
      t.kind = .expressionStatement ∧ ∃ value, t.namedChildren = [value] ∧ value.IsTextValue := by
  rw [isTextStatement, Bool.and_eq_true, decide_eq_true_eq]
  refine and_congr_right fun _ => ?_
  split
  · next value hchildren => simp [hchildren, isText_iff]
  · next hchildren =>
    refine iff_of_false Bool.false_ne_true ?_
    rintro ⟨value, hvalue, -⟩
    exact hchildren value hvalue

theorem firstStatement?_eq_some_iff {s : Tree} :
    t.firstStatement? = some s ↔ t.IsFirstStatement s := by
  rw [firstStatement?, List.find?_eq_some_iff_append, IsFirstStatement]
  simp only [decide_eq_true_eq, Bool.not_eq_true', decide_eq_false_iff_not, ne_eq, Classical.not_not]
  constructor
  · rintro ⟨hkind, before, behind, hsplit, hbefore⟩
    exact ⟨before, behind, hsplit, hkind, hbefore⟩
  · rintro ⟨before, behind, hsplit, hkind, hbefore⟩
    exact ⟨hkind, before, behind, hsplit, hbefore⟩

/-- A tree has a docstring if its body opens with one. -/
theorem hasDocstring_iff : t.hasDocstring = true ↔ t.OpensWithDocstring := by
  rw [hasDocstring, OpensWithDocstring, ← body?]
  simp only [Option.any_eq_true, Option.bind_eq_some_iff, isTextStatement_iff,
    firstStatement?_eq_some_iff, Option.mem_def]
  constructor
  · rintro ⟨s, ⟨body, hbody, hfirst⟩, hstatement⟩
    exact ⟨body, hbody, s, hfirst, hstatement⟩
  · rintro ⟨body, hbody, s, hfirst, hstatement⟩
    exact ⟨s, ⟨body, hbody, hfirst⟩, hstatement⟩

instance : DecidablePred OpensWithDocstring := fun _ => decidable_of_iff _ hasDocstring_iff

/-- The classes and functions at any depth that do not open with a docstring, in the order of the
text. -/
def undocumentedDefinitions (tree : Tree) : List Tree :=
  tree.preorder.filter fun t =>
    (t.kind = .classDefinition ∨ t.kind = .functionDefinition) ∧ ¬ t.OpensWithDocstring

end Python.Tree

/-! ### Findings about private functions -/

/-- The name starts with an underscore, and does not both start and end with two of them. -/
def IsPrivateName (name : List Char) : Prop :=
  ['_'] <+: name ∧ ¬ (['_', '_'] <+: name ∧ ['_', '_'] <:+ name)

instance : DecidablePred IsPrivateName := fun name =>
  inferInstanceAs (Decidable (['_'] <+: name ∧ ¬ (['_', '_'] <+: name ∧ ['_', '_'] <:+ name)))

/-- The finding is about a function with a private name. -/
def Finding.IsAboutPrivate (f : Finding) : Prop :=
  ∃ e ∈ f.element, (e.kind = .function ∨ e.kind = .asyncFunction) ∧
    ∃ name ∈ e.name, IsPrivateName name.toList

instance : DecidablePred Finding.IsAboutPrivate := fun f =>
  inferInstanceAs (Decidable (∃ e ∈ f.element, (e.kind = .function ∨ e.kind = .asyncFunction) ∧
    ∃ name ∈ e.name, IsPrivateName name.toList))

namespace Check

open Python (Tree)

variable {ctx : Context} {path shown : Path} {t tree : Tree} {f : Finding}

theorem isPrivateName_iff (name : List Char) : isPrivateName name = true ↔ IsPrivateName name := by
  rw [isPrivateName, IsPrivateName, Bool.and_eq_true, Bool.not_eq_true', Bool.and_eq_false_iff,
    ← Bool.not_eq_true, ← Bool.not_eq_true]
  simp only [Text.startsWith_iff, Text.endsWith_iff, Classical.not_and_iff_not_or_not]

/-- What is said of a definition without a docstring. -/
def missingDocstring (shown : Path) (t : Tree) : Finding where
  path := shown
  line := some t.firstLine
  element := some ⟨if t.kind = .classDefinition then .classDef
    else if t.isAsync then .asyncFunction else .function, some t.name⟩
  message := ""

/-- What is said of a module without a docstring. -/
def missingModuleDocstring (shown : Path) : Finding where
  path := shown
  line := some 1
  element := some ⟨.module, some ""⟩
  message := ""

theorem not_isAboutPrivate_module (shown : Path) : ¬ (missingModuleDocstring shown).IsAboutPrivate := by
  rintro ⟨e, he, hkind, -⟩
  obtain rfl := Option.some.inj he
  rcases hkind with hkind | hkind <;> cases hkind

theorem isAboutPrivate_missingDocstring (shown : Path) (t : Tree) :
    (missingDocstring shown t).IsAboutPrivate ↔
      t.kind ≠ .classDefinition ∧ IsPrivateName t.name.toList := by
  simp only [Finding.IsAboutPrivate, missingDocstring, Option.mem_def, Option.some.injEq, exists_eq_left']
  refine and_congr_left fun _ => ?_
  split
  · next hkind => simp [hkind]
  · next hkind => cases t.isAsync <;> simp [hkind]

theorem isDefinition_iff :
    t.isDefinition = true ↔ t.kind = .classDefinition ∨ t.kind = .functionDefinition := by
  rw [Tree.isDefinition, Bool.or_eq_true, decide_eq_true_eq, decide_eq_true_eq]

/-- The definitions without a docstring are those among the definitions that open with none. -/
theorem undocumentedDefinitions_eq (tree : Tree) :
    tree.undocumentedDefinitions = tree.definitions.filter fun t => ¬ t.OpensWithDocstring := by
  rw [Tree.definitions, List.filter_filter, Tree.visit_eq_preorder, Tree.undocumentedDefinitions]
  refine List.filter_congr fun t _ => ?_
  rw [Bool.eq_iff_iff, Bool.and_eq_true, decide_eq_true_eq, decide_eq_true_eq, isDefinition_iff, and_comm]

/-- A definition is left out exactly if its finding would be about a private function. -/
theorem isLeftOut_iff (scope : DocstringScope) (shown : Path) (h : t.isDefinition = true) :
    isLeftOut scope t = true ↔
      scope.skipPrivate = true ∧ (missingDocstring shown t).IsAboutPrivate := by
  have hfunction : t.kind = .functionDefinition ↔ t.kind ≠ .classDefinition := by
    rcases isDefinition_iff.1 h with hkind | hkind <;> simp [hkind]
  rw [isAboutPrivate_missingDocstring, isLeftOut, Bool.and_eq_true, Bool.and_eq_true,
    decide_eq_true_eq, isPrivateName_iff, hfunction, and_assoc]

theorem mem_definitions :
    t ∈ tree.definitions ↔ t ∈ tree.visit ∧ t.isDefinition = true := by
  rw [Tree.definitions, List.mem_filter]

/-- A definition is reported if it has no docstring, unless it is a private function and those are
skipped. -/
theorem undocumented?_eq (scope : DocstringScope) (shown : Path) (h : t.isDefinition = true) :
    undocumented? scope shown t =
      if ¬ (scope.skipPrivate = true ∧ (missingDocstring shown t).IsAboutPrivate) ∧
          ¬ t.OpensWithDocstring
        then some (missingDocstring shown t)
      else none := by
  have hreported : (!isLeftOut scope t && !t.hasDocstring) = true ↔
      ¬ (scope.skipPrivate = true ∧ (missingDocstring shown t).IsAboutPrivate) ∧
        ¬ t.OpensWithDocstring := by
    rw [Bool.and_eq_true, Bool.not_eq_true', Bool.not_eq_true', ← Bool.not_eq_true,
      ← Bool.not_eq_true, Tree.hasDocstring_iff, isLeftOut_iff scope shown h]
  rw [undocumented?, if_congr hreported rfl rfl]
  rfl

/-- Skipping private functions leaves out their findings. -/
theorem undocumented?_skipPrivate (skipTests : Bool) (shown : Path) (h : t.isDefinition = true) :
    undocumented? ⟨true, skipTests⟩ shown t =
      (undocumented? ⟨false, skipTests⟩ shown t).filter fun f => ¬ f.IsAboutPrivate := by
  rw [undocumented?_eq _ _ h, undocumented?_eq _ _ h]
  -- with a docstring there is nothing to leave out
  by_cases hopens : t.OpensWithDocstring
  · simp [hopens]
  · by_cases hprivate : (missingDocstring shown t).IsAboutPrivate
    · simp [hopens, hprivate, Option.filter]
    · simp [hopens, hprivate, Option.filter]

theorem undocumented_skipPrivate (skipTests : Bool) (shown : Path) (tree : Tree) :
    undocumented ⟨true, skipTests⟩ shown tree =
      (undocumented ⟨false, skipTests⟩ shown tree).filter fun f => ¬ f.IsAboutPrivate := by
  have hinside : tree.definitions.filterMap (undocumented? ⟨true, skipTests⟩ shown) =
      (tree.definitions.filterMap (undocumented? ⟨false, skipTests⟩ shown)).filter
        fun f => ¬ f.IsAboutPrivate := by
    rw [List.filter_filterMap]
    exact List.filterMap_congr fun t ht =>
      undocumented?_skipPrivate skipTests shown (mem_definitions.1 ht).2
  have hmodule : ¬ (Finding.ofElement shown 1 .module "").IsAboutPrivate :=
    not_isAboutPrivate_module shown
  rw [undocumented, undocumented]
  split
  · exact hinside
  · rw [List.filter_cons_of_pos (by simpa using hmodule)]
    exact congrArg _ hinside

/-- With nothing left out, the module is reported if it has no docstring, and then each definition that
has none. -/
theorem undocumented_eq (skipTests : Bool) (shown : Path) (tree : Tree) :
    undocumented ⟨false, skipTests⟩ shown tree =
      (if tree.OpensWithDocstring then [] else [missingModuleDocstring shown]) ++
        tree.undocumentedDefinitions.map (missingDocstring shown) := by
  have hinside : tree.definitions.filterMap (undocumented? ⟨false, skipTests⟩ shown) =
      tree.undocumentedDefinitions.map (missingDocstring shown) := by
    rw [undocumentedDefinitions_eq, ← List.filterMap_eq_map, List.filterMap_filter]
    apply List.filterMap_congr
    intro t ht
    simp only [undocumented?_eq _ _ (mem_definitions.1 ht).2, Bool.false_eq_true, false_and,
      not_false_eq_true, true_and, decide_eq_true_eq, Function.comp_apply]
  rw [undocumented, hinside]
  by_cases hdocstring : tree.OpensWithDocstring
  · rw [if_pos (Tree.hasDocstring_iff.2 hdocstring), if_pos hdocstring, List.nil_append]
  · rw [if_neg (mt Tree.hasDocstring_iff.1 hdocstring), if_neg hdocstring]
    rfl

/-! ### Files and sources -/

/-- A file that is no module is reported for no definition. -/
theorem element_of_readModule (h : ctx.readModule path = .error f) : f.element = none := by
  -- neither a read error nor a syntax error is about an element
  rw [Context.readModule] at h
  split at h
  · rw [← Except.error.inj h]
    rfl
  · dsimp only at h
    split at h
    · cases h
    · rw [← Except.error.inj h]
      rfl

theorem undocumentedIn_skipPrivate (skipTests : Bool) (ctx : Context) (path : Path) :
    undocumentedIn ⟨true, skipTests⟩ ctx path =
      (undocumentedIn ⟨false, skipTests⟩ ctx path).filter fun f => ¬ f.IsAboutPrivate := by
  rw [undocumentedIn, undocumentedIn]
  split
  · rfl
  · rw [inModule, inModule]
    -- a file that is no module gives one finding, which is about no element and stays
    rcases hmodule : ctx.readModule path with finding | tree
    · have hnot : ¬ finding.IsAboutPrivate := by
        rintro ⟨e, he, -⟩
        rw [element_of_readModule hmodule] at he
        cases he
      simp [hnot]
    · exact undocumented_skipPrivate skipTests (ctx.shown path) tree

theorem undocumentedIn_skipTests (skipPrivate : Bool) (ctx : Context) (path : Path) :
    undocumentedIn ⟨skipPrivate, true⟩ ctx path =
      if isTestFile path then [] else undocumentedIn ⟨skipPrivate, false⟩ ctx path := by
  rw [undocumentedIn, undocumentedIn]
  rfl

end Check

namespace Analyzer

/-- What is found, each finding with the source in which it is found. -/
def located (a : Analyzer) (ctx : Context) : List (Path × Finding) :=
  ctx.sources.value.flatMap fun source => (a.analyse ctx source).map fun f => (source, f)

theorem map_located (a : Analyzer) (ctx : Context) : (a.located ctx).map Prod.snd = a.findings ctx := by
  rw [located, findings, List.map_flatMap]
  apply List.flatMap_congr
  intro source _
  rw [List.map_map]
  exact List.map_id _

/-- An analysis that is a filtered one in every source is so in all of them. -/
theorem located_eq_filter {a b : Analyzer} {ctx : Context} {keep : Path × Finding → Bool}
    (h : ∀ source, a.analyse ctx source = (b.analyse ctx source).filter fun f => keep (source, f)) :
    a.located ctx = (b.located ctx).filter keep := by
  rw [located, located, List.filter_flatMap]
  apply List.flatMap_congr
  intro source _
  rw [h, List.filter_map]
  rfl

/-- The check of docstrings reports what is found in the sources.  Skipping private functions leaves out
the findings about functions whose name is private and no others, whatever is inside them; skipping files
of tests leaves out the findings in those files and no others.  With nothing left out, a file that is
valid Python is reported first for its module, if that has no docstring, and then for each class and
function at any depth that has none, in the order of the text. -/
theorem docstring_switches_filter (ctx : Context) (hproject : ctx.project.isAbsolute = true) :
    (∀ scope, ((Check.docstring scope).run ctx).value =
      .results [aggregate "Docstring Check" "Missing docstrings found:"
        "All modules, classes, and functions have docstrings."
        (((docstring scope).located ctx).map Prod.snd)]) ∧
    (∀ skipTests, (docstring ⟨true, skipTests⟩).located ctx =
      ((docstring ⟨false, skipTests⟩).located ctx).filter fun e => ¬ e.2.IsAboutPrivate) ∧
    (∀ skipPrivate, (docstring ⟨skipPrivate, true⟩).located ctx =
      ((docstring ⟨skipPrivate, false⟩).located ctx).filter fun e => ¬ isTestFile e.1) ∧
    ∀ path text, ctx.disk.readText path = .ok text →
      let tree := Python.Tree.ofText text
      (¬ ∃ t ∈ tree.preorder, t.IsRefused) →
        (docstring ⟨false, false⟩).analyse ctx path =
          (if tree.OpensWithDocstring then [] else [Check.missingModuleDocstring (ctx.shown path)]) ++
            tree.undocumentedDefinitions.map (Check.missingDocstring (ctx.shown path)) ∧
        (tree.IsOrdered → tree.undocumentedDefinitions.Pairwise fun s t => s.first ≤ t.first) := by
  refine ⟨fun scope => ?_, fun skipTests => ?_, fun skipPrivate => ?_, ?_⟩
  · rw [map_located]
    exact (docstring scope).value_run hproject
  · exact located_eq_filter fun source => Check.undocumentedIn_skipPrivate skipTests ctx source
  · apply located_eq_filter
    intro source
    show Check.undocumentedIn ⟨skipPrivate, true⟩ ctx source = _
    rw [Check.undocumentedIn_skipTests]
    -- one decision for all findings in the source
    cases htest : isTestFile source
    · exact (List.filter_eq_self.2 fun _ _ => by rw [htest]; rfl).symm
    · exact (List.filter_eq_nil_iff.2 fun _ _ => by rw [htest]; decide).symm
  · intro path text hread tree hvalid
    have hmodule : ctx.readModule path = .ok tree := by
      rw [Check.readModule_of_readText hread, Python.Tree.invalidLine?_eq_none_iff.2 hvalid]
    refine ⟨?_, fun h => h.pairwise_first.filter _⟩
    show Check.inModule (Check.undocumented ⟨false, false⟩) ctx path = _
    rw [Check.inModule, hmodule]
    exact Check.undocumented_eq false (ctx.shown path) tree

/-- A private function with another one inside it: only the finding about the outer one is left out. -/
theorem docstring_switches_on_nested_function :
    let text := "def _f():\n def g(): 1\nclass _C: 1\n".toList
    let path : Path := ⟨"/p/a.py"⟩
    let d := Disk.empty.putDeep ["a.py".toList, "p".toList] (.file (Text.encode text))
    let ctx : Context := ⟨⟨"/p"⟩, [⟨""⟩], .standard, d⟩
    let found := (docstring ⟨false, false⟩).analyse ctx path
    (ctx.project.isAbsolute = true ∧ ctx.disk.readText path = .ok text ∧
      ¬ ∃ t ∈ (Python.Tree.ofText text).preorder, t.IsRefused) ∧
    (docstring ⟨true, true⟩).located ctx =
      (((docstring ⟨false, false⟩).located ctx).filter fun e => ¬ isTestFile e.1).filter
        (fun e => ¬ e.2.IsAboutPrivate) ∧
    found.map Finding.display =
      ["a.py:1 - module", "a.py:1 - function '_f'", "a.py:2 - function 'g'", "a.py:3 - class '_C'"] ∧
    (found.filter fun f => ¬ f.IsAboutPrivate).map Finding.display =
      ["a.py:1 - module", "a.py:2 - function 'g'", "a.py:3 - class '_C'"] := by
  intro text path d ctx found
  have hproject : ctx.project.isAbsolute = true := by decide
  have hsome : (ctx.disk.readText path).toOption = some text := by decide +kernel
  have hread : ctx.disk.readText path = .ok text := Check.eq_ok_of_toOption hsome
  have hline : (Python.Tree.ofText text).invalidLine? = none := by decide +kernel
  have hvalid := Python.Tree.invalidLine?_eq_none_iff.1 hline
  obtain ⟨-, hprivate, htests, hfile⟩ := docstring_switches_filter ctx hproject
  have hfound : found = _ := (hfile path text hread hvalid).1
  refine ⟨⟨hproject, hread, hvalid⟩, ?_, ?_⟩
  · rw [hprivate, htests]
  · rw [hfound]
    decide +kernel

end Analyzer

end QualityGate
