/-
Which files are reported as too long.

A file is a number of lines that a line feed ends each, and a rest that none ends; its count of lines is
the number of the former, and one more if there is a rest (`AreLines.countLines_eq`).  So what is appended
behind a line end adds its own lines (`countLines_append`), and whether the last line is ended does not
matter for a limit.

The check goes over the sources one by one and reports those that cannot be read or have too many lines,
each once and in their order, whatever is in them (`reports_overlong_files`).
-/
import QualityGate.Proofs.Check.LineCount
import QualityGate.Proofs.Check.Sources

namespace QualityGate

/-! ### Counting lines -/

/-- The bytes are the lines, each ended by a line feed, and a rest without one. -/
structure AreLines (bytes : List UInt8) (closed : List (List UInt8)) (rest : List UInt8) : Prop where
  eq : bytes = closed.flatMap (fun line => line ++ [10]) ++ rest
  closed : ∀ line ∈ closed, 10 ∉ line
  rest : 10 ∉ rest

section Lines

variable {bytes a b rest : List UInt8} {closed : List (List UInt8)}

/-- The bytes are empty or end in a line feed. -/
def IsClosed (bytes : List UInt8) : Prop :=
  bytes = [] ∨ bytes.getLast? = some 10

theorem countLines_of_isClosed (h : IsClosed a) : countLines a = a.count 10 := by
  rcases h with rfl | h
  · rfl
  · exact countLines_of_last_feed h

/-- What stands behind a line end adds its own lines. -/
theorem countLines_append (h : IsClosed a) : countLines (a ++ b) = countLines a + countLines b := by
  rw [countLines_of_isClosed h]
  by_cases hb : b = []
  · rw [hb, List.append_nil, countLines_of_isClosed h]
    rfl
  · have hlast : (a ++ b).getLast? = b.getLast? := List.getLast?_append_of_ne_nil a hb
    have hne : a ++ b ≠ [] := List.append_ne_nil_of_right_ne_nil a hb
    -- whether a last line is left open is decided by what stands behind
    by_cases hfeed : b.getLast? = some 10
    · rw [countLines_of_last_feed (hlast.trans hfeed), countLines_of_last_feed hfeed, List.count_append]
    · rw [countLines_of_rest hne (hlast ▸ hfeed), countLines_of_rest hb hfeed, List.count_append,
        Nat.add_assoc]

theorem countLines_line (h : 10 ∉ a) : countLines (a ++ [10]) = 1 := by
  rw [countLines_of_last_feed List.getLast?_concat, List.count_append, List.count_eq_zero_of_not_mem h]
  rfl

theorem isClosed_line (a : List UInt8) : IsClosed (a ++ [10]) :=
  .inr List.getLast?_concat

theorem countLines_rest (h : 10 ∉ rest) : countLines rest = if rest = [] then 0 else 1 := by
  by_cases hrest : rest = []
  · rw [hrest]
    rfl
  · have hlast : rest.getLast? ≠ some 10 := fun hlast => h (List.mem_of_getLast? hlast)
    rw [countLines_of_rest hrest hlast, List.count_eq_zero_of_not_mem h, if_neg hrest]

/-- The lines that are ended are counted, and a rest that is not empty. -/
theorem AreLines.countLines_eq (h : AreLines bytes closed rest) :
    countLines bytes = closed.length + if rest = [] then 0 else 1 := by
  obtain ⟨rfl, hclosed, hrest⟩ := h
  induction closed with
  | nil =>
    rw [List.flatMap_nil, List.nil_append, countLines_rest hrest, List.length_nil, Nat.zero_add]
  | cons line more ih =>
    obtain ⟨hline, hmore⟩ := List.forall_mem_cons.1 hclosed
    rw [List.flatMap_cons, List.append_assoc, countLines_append (isClosed_line line),
      countLines_line hline, ih hmore, List.length_cons]
    omega

/-- All bytes are lines and a rest. -/
theorem exists_areLines (bytes : List UInt8) : ∃ closed rest, AreLines bytes closed rest := by
  induction bytes with
  | nil => exact ⟨[], [], rfl, List.forall_mem_nil _, List.not_mem_nil⟩
  | cons byte bytes ih =>
    obtain ⟨closed, rest, rfl, hclosed, hrest⟩ := ih
    by_cases hfeed : byte = 10
    · refine ⟨[] :: closed, rest, by rw [hfeed]; rfl, ?_, hrest⟩
      exact List.forall_mem_cons.2 ⟨List.not_mem_nil, hclosed⟩
    · -- the byte is the first of the first line, or of the rest where no line is ended
      have hcons {line : List UInt8} (hline : 10 ∉ line) : 10 ∉ byte :: line :=
        fun hmem => (List.mem_cons.1 hmem).elim (fun heq => hfeed heq.symm) hline
      cases closed with
      | nil => exact ⟨[], byte :: rest, rfl, List.forall_mem_nil _, hcons hrest⟩
      | cons line more =>
        obtain ⟨hline, hmore⟩ := List.forall_mem_cons.1 hclosed
        exact ⟨(byte :: line) :: more, rest, rfl, List.forall_mem_cons.2 ⟨hcons hline, hmore⟩, hrest⟩

end Lines

namespace Check

variable {limit : Nat} {ctx : Context} {path : Path}

/-! ### Reported files -/

/-- The file cannot be read, or it has more lines than the limit. -/
def IsOverlong (limit : Nat) (ctx : Context) (path : Path) : Prop :=
  (∃ cause, ctx.disk.read path = .error cause) ∨
    ∃ bytes, ctx.disk.read path = .ok bytes ∧ limit < countLines bytes

/-- What is said of a file that is reported: why it cannot be read, or how many lines it has. -/
def overlongMessage (limit : Nat) (ctx : Context) (path : Path) : String :=
  match ctx.disk.read path with
  | .error cause => "Error: " ++ cause.message
  | .ok bytes => (countLines bytes).repr ++ " lines (max " ++ limit.repr ++ ")"

theorem longFile_cases (limit : Nat) (ctx : Context) (path : Path) :
    IsOverlong limit ctx path ∧
        longFile limit ctx path =
          [.ofMessage (ctx.shown path) none (overlongMessage limit ctx path)] ∨
      ¬ IsOverlong limit ctx path ∧ longFile limit ctx path = [] := by
  rw [IsOverlong, longFile, overlongMessage]
  -- a file that cannot be read is reported whatever the limit
  rcases ctx.disk.read path with cause | bytes
  · exact .inl ⟨.inl ⟨cause, rfl⟩, rfl⟩
  · by_cases hlong : limit < countLines bytes
    · exact .inl ⟨.inr ⟨bytes, rfl, hlong⟩, if_pos hlong⟩
    · refine .inr ⟨?_, if_neg hlong⟩
      rintro (⟨cause, herror⟩ | ⟨bytes', hbytes, hlong'⟩)
      · cases herror
      · rw [← Except.ok.inj hbytes] at hlong'
        exact hlong hlong'

/-- A file that cannot be read is reported with the cause, whatever the limit is. -/
theorem isOverlong_of_unreadable {loc : Location} {cause : IoError}
    (h : ctx.disk.resolve .find path = .ok loc) (hfile : ctx.disk.lookup? loc = some (.unreadable cause))
    (limit : Nat) :
    IsOverlong limit ctx path ∧ overlongMessage limit ctx path = "Error: " ++ cause.message := by
  have hread := Disk.read_of_unreadable h hfile
  rw [IsOverlong, overlongMessage, hread]
  exact ⟨.inl ⟨cause, rfl⟩, rfl⟩

instance (limit : Nat) (ctx : Context) : DecidablePred (IsOverlong limit ctx) := fun path =>
  decidable_of_iff (longFile limit ctx path ≠ []) <| by
    rcases longFile_cases limit ctx path with ⟨hlong, hfound⟩ | ⟨hlong, hfound⟩ <;> simp [hlong, hfound]

/-- Of all files those are reported that are overlong, each once and in their order. -/
theorem flatMap_longFile (limit : Nat) (ctx : Context) (paths : List Path) :
    paths.flatMap (longFile limit ctx) =
      (paths.filter fun path => IsOverlong limit ctx path).map fun path =>
        .ofMessage (ctx.shown path) none (overlongMessage limit ctx path) := by
  induction paths with
  | nil => rfl
  | cons path rest ih =>
    rw [List.flatMap_cons, ih]
    rcases longFile_cases limit ctx path with ⟨hlong, hfound⟩ | ⟨hlong, hfound⟩
    · simp [hfound, hlong]
    · simp [hfound, hlong]

/-- What the details say of the files that are reported. -/
def overlongDetails (limit : Nat) (ctx : Context) (paths : List Path) : String :=
  "Files exceeding the maximum length of " ++ limit.repr ++ " lines:" ++
    String.join (paths.map fun path =>
      "\n- " ++ ((ctx.shown path).text ++ " - " ++ overlongMessage limit ctx path))

theorem aggregate_of_ne_nil (name header pass : String) {findings : List Finding} (h : findings ≠ []) :
    aggregate name header pass findings =
      ⟨name, .failed, header ++ String.join (findings.map fun f => "\n- " ++ f.display)⟩ := by
  obtain ⟨f, rest, rfl⟩ := List.exists_cons_of_ne_nil h
  rfl

/-- Messages about files make a failure with an entry for each, and no message makes a pass. -/
theorem aggregate_messages (name header pass : String) (ctx : Context) (paths : List Path)
    (message : Path → String) :
    aggregate name header pass
        (paths.map fun path => .ofMessage (ctx.shown path) none (message path)) =
      if paths = [] then ⟨name, .passed, pass⟩
      else ⟨name, .failed, header ++ String.join (paths.map fun path =>
        "\n- " ++ ((ctx.shown path).text ++ " - " ++ message path))⟩ := by
  have hdisplay (path : Path) :
      (Finding.ofMessage (ctx.shown path) none (message path)).display =
        (ctx.shown path).text ++ " - " ++ message path := by
    simp [Finding.display, Finding.ofMessage]
  by_cases hpaths : paths = []
  · rw [if_pos hpaths, hpaths]
    rfl
  · rw [if_neg hpaths, aggregate_of_ne_nil _ _ _ (mt List.map_eq_nil_iff.1 hpaths), List.map_map]
    simp only [Function.comp_def, hdisplay]

theorem value_run_fileLength (limit : Nat) (hproject : ctx.project.isAbsolute = true) :
    ((fileLength limit).run ctx).value =
      let reported := ctx.sources.value.filter fun path => IsOverlong limit ctx path
      .results [if reported = [] then
          ⟨"File Length", .passed, "All files are under the maximum length of " ++ limit.repr ++ " lines."⟩
        else ⟨"File Length", .failed, overlongDetails limit ctx reported⟩] := by
  have hrun : ((fileLength limit).run ctx).value = .results [aggregate "File Length"
      ("Files exceeding the maximum length of " ++ limit.repr ++ " lines:")
      ("All files are under the maximum length of " ++ limit.repr ++ " lines.")
      (ctx.sources.value.flatMap (longFile limit ctx))] :=
    (Analyzer.fileLength limit).value_run hproject
  rw [hrun, flatMap_longFile, aggregate_messages]
  rfl

/-- The check of file lengths fails exactly if a source cannot be read or has more lines than the limit.
Its details then have one entry for each such source, in the order of the sources, with the count of its
lines.  The count is that of the lines that are ended, and one more for a rest; what stands behind a line
end adds its own lines; and a file of exactly as many lines as the limit is not reported, whether or not
its last line is ended. -/
theorem reports_overlong_files (ctx : Context) (limit : Nat) (hproject : ctx.project.isAbsolute = true) :
    (∃ result, ((fileLength limit).run ctx).value = .results [result] ∧ result.name = "File Length" ∧
      (result.status = .failed ↔ ∃ path ∈ ctx.sources.value, IsOverlong limit ctx path) ∧
      (result.status = .failed → result.details =
        overlongDetails limit ctx (ctx.sources.value.filter fun path => IsOverlong limit ctx path)) ∧
      (result.status ≠ .failed → result.status = .passed ∧ result.details =
        "All files are under the maximum length of " ++ limit.repr ++ " lines.")) ∧
    (∀ bytes, ∃ closed rest, AreLines bytes closed rest) ∧
    (∀ bytes closed rest, AreLines bytes closed rest →
      countLines bytes = closed.length + if rest = [] then 0 else 1) ∧
    (∀ a b : List UInt8, a = [] ∨ a.getLast? = some 10 →
      countLines (a ++ b) = countLines a + countLines b) ∧
    ∀ path bytes closed rest, ctx.disk.read path = .ok bytes → AreLines bytes closed rest →
      (closed.length + if rest = [] then 0 else 1) = limit → ¬ IsOverlong limit ctx path := by
  refine ⟨⟨_, value_run_fileLength limit hproject, ?_⟩, exists_areLines, fun _ _ _ h => h.countLines_eq,
    fun _ _ h => countLines_append h, ?_⟩
  · have hnone : (ctx.sources.value.filter fun path => IsOverlong limit ctx path) = [] ↔
        ¬ ∃ path ∈ ctx.sources.value, IsOverlong limit ctx path := by
      simp
    split
    · next hpassed => simp [hnone.1 hpassed]
    · next hfailed => simp [Classical.not_not.1 (mt hnone.2 hfailed)]
  -- a file of exactly the limit could be read, so only its length is left to ask for
  · rintro path bytes closed rest hread hlines hlimit (⟨cause, herror⟩ | ⟨bytes', hbytes, hlong⟩)
    · rw [hread] at herror
      cases herror
    · rw [hread] at hbytes
      rw [← Except.ok.inj hbytes, hlines.countLines_eq, hlimit] at hlong
      exact Nat.lt_irrefl _ hlong

/-- Three files: one with three lines, the last of them not ended, that is no text; one that must not be
read; and one with two lines.  With a limit of two the first is too long and the second is an error, in
this order; three lines are not too many for a limit of three. -/
theorem reports_overlong_beside_unreadable_file :
    let long : List UInt8 := [255, 10, 10, 40]
    let denied : IoError := .other "Permission denied (os error 13)"
    let d := ((Disk.empty.putDeep ["a.py".toList, "p".toList] (.file long)).putDeep
      ["b.py".toList, "p".toList] (.unreadable denied)).putDeep ["c.py".toList, "p".toList] (.file [10, 10])
    let ctx : Context := ⟨⟨"/p"⟩, [⟨""⟩], .standard, d⟩
    let told := "Files exceeding the maximum length of 2 lines:\n- a.py - 3 lines (max 2)\n" ++
      "- b.py - Error: Permission denied (os error 13)"
    (ctx.project.isAbsolute = true ∧ AreLines long [[255], []] [40] ∧
      ctx.sources.value = [⟨"/p/a.py"⟩, ⟨"/p/b.py"⟩, ⟨"/p/c.py"⟩]) ∧
    ((fileLength 2).run ctx).value = .results [⟨"File Length", .failed, told⟩] ∧
    ¬ IsOverlong 3 ctx ⟨"/p/a.py"⟩ := by
  intro long denied d ctx told
  have hproject : ctx.project.isAbsolute = true := by decide
  have hlines : AreLines long [[255], []] [40] := ⟨rfl, by decide, by decide⟩
  have hsome : (ctx.disk.read ⟨"/p/a.py"⟩).toOption = some long := by decide +kernel
  have hread : ctx.disk.read ⟨"/p/a.py"⟩ = .ok long := eq_ok_of_toOption hsome
  -- the project is the only source directory, and it holds nothing but the three files
  have hroots : ctx.presentRoots = [⟨"/p/"⟩] := by decide +kernel
  have hleads : d.LeadsToDirectory ⟨"/p/"⟩ ["p".toList] := ⟨by decide +kernel, by decide +kernel⟩
  have hkept : ((d.names ["p".toList]).map fun name => (⟨"/p/"⟩ : Path).child (String.ofList name)).filter
      isPythonFile = [⟨"/p/a.py"⟩, ⟨"/p/b.py"⟩, ⟨"/p/c.py"⟩] := by decide +kernel
  have hsources : ctx.sources.value = [⟨"/p/a.py"⟩, ⟨"/p/b.py"⟩, ⟨"/p/c.py"⟩] := by
    rw [Context.sources_of_presentRoots hroots, Context.filesBelow, Context.list,
      Disk.files_list_of_files hleads (by decide +kernel), hkept]
    exact List.mergeSort_of_pairwise (by decide +kernel)
  have hreported : (ctx.sources.value.filter fun path => IsOverlong 2 ctx path) =
      [⟨"/p/a.py"⟩, ⟨"/p/b.py"⟩] := by
    rw [hsources]
    decide +kernel
  obtain ⟨⟨⟨name, status, details⟩, hrun, rfl, hstatus, hdetails, -⟩, -⟩ :=
    reports_overlong_files ctx 2 hproject
  obtain ⟨-, -, -, -, hlimit⟩ := reports_overlong_files ctx 3 hproject
  have hresolve : ctx.disk.resolve .find ⟨"/p/b.py"⟩ = .ok ["b.py".toList, "p".toList] := by
    decide +kernel
  have hlookup : ctx.disk.lookup? ["b.py".toList, "p".toList] = some (.unreadable denied) := by
    decide +kernel
  have hdenied := isOverlong_of_unreadable hresolve hlookup 2
  obtain rfl : status = .failed := hstatus.2 ⟨⟨"/p/b.py"⟩, by rw [hsources]; decide, hdenied.1⟩
  have htold : overlongDetails 2 ctx [⟨"/p/a.py"⟩, ⟨"/p/b.py"⟩] = told := by decide +kernel
  obtain rfl : details = told := htold ▸ hreported ▸ hdetails rfl
  exact ⟨⟨hproject, hlines, hsources⟩, hrun, hlimit _ _ _ _ hread hlines rfl⟩

end Check

end QualityGate
