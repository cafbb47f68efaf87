/-
A report's document reads as the run that it is about.

`Reading` is what a reader of the document learns: the circumstances, the summary, and for each check
the structured view of its details.  It is read from the JSON value alone, each field from the single
member of its name (`Reading.ofJson?`).

The value of a report can be printed (`isPrintable_toJson`), so its document denotes it, and reading it
gives back what the report was made of (`ofJson?_toJson`).
-/
import QualityGate.Proofs.Json.RoundTrip
import QualityGate.Report.Document

namespace QualityGate

/-! ### Fields of JSON values -/

namespace Json

/-- The value of the single member of a name. -/
def field? (name : String) : Json → Option Json
  | .object members =>
    match members.filter fun m => m.1 = some name with
    | [m] => some m.2
    | _ => none
  | _ => none

/-- No member has the name. -/
def lacks (name : String) : Json → Bool
  | .object members => members.all fun m => m.1 ≠ some name
  | _ => true

/-- The natural number that the value denotes. -/
def nat? : Json → Option Nat
  | .number literal => Text.readNat? literal.toList
  | _ => none

/-- The items of an array, each read in the same way. -/
def items? {α : Type} (read : Json → Option α) : Json → Option (List α)
  | .array items => items.mapM read
  | _ => none

/-- The names and texts of an object's members, in their order. -/
def texts? : Json → Option (List (String × String))
  | .object members => members.mapM fun m => do return (← m.1, ← m.2.string?)
  | _ => none

/-- The items of an array, each a string. -/
def strings? : Json → Option (List String) :=
  items? string?

end Json

/-- The status with the label. -/
def Status.ofLabel? (label : String) : Option Status :=
  [.passed, .failed, .skipped].find? fun s => s.label = label

/-! ### What a document says -/

/-- What a document says about a check. -/
structure EntryReading where
  name : String
  status : Status
  rawDetails : String
  summary : String
  issues : List String
  files : Option (List String)
  deriving DecidableEq

/-- What a document says about a run. -/
structure Reading where
  metadata : Metadata
  summary : ReportSummary
  checks : List EntryReading

/-- Reads the circumstances of a run. -/
def Metadata.ofJson? (json : Json) : Option Metadata := do
  return {
    timestamp := ← (← json.field? "timestamp").string?
    projectPath := ← (← json.field? "project_path").string?
    configuration := ← (← json.field? "configuration").texts?
    version := ← (← json.field? "version").string? }

/-- Reads the counts and the verdict of a run. -/
def ReportSummary.ofJson? (json : Json) : Option ReportSummary := do
  return {
    tally := {
      passed := ← (← json.field? "passed").nat?
      failed := ← (← json.field? "failed").nat?
      skipped := ← (← json.field? "skipped").nat? }
    total := ← (← json.field? "total").nat?
    status := ← Status.ofLabel? (← (← json.field? "status").string?) }

namespace EntryReading

/-- What is said about a result. -/
def ofResult (r : CheckResult) : EntryReading :=
  let details := Details.parse r.name r.details
  ⟨r.name, r.status, r.details, details.summary, details.issues, details.files⟩

/-- The files of a structured view; the member can be missing. -/
def files? (details : Json) : Option (Option (List String)) :=
  if details.lacks "files" then some none
  else do return some (← (← details.field? "files").strings?)

/-- Reads an entry. -/
def ofJson? (entry : Json) : Option EntryReading := do
  let details ← entry.field? "details"
  return {
    name := ← (← entry.field? "name").string?
    status := ← Status.ofLabel? (← (← entry.field? "status").string?)
    rawDetails := ← (← entry.field? "raw_details").string?
    summary := ← (← details.field? "summary").string?
    issues := ← (← details.field? "issues").strings?
    files := ← files? details }

end EntryReading

namespace Reading

/-- What is said about a run with the given results. -/
def ofResults (results : List CheckResult) (project : Path) (configuration : List (String × String))
    (timestamp : String) : Reading where
  metadata := ⟨timestamp, project.text, configuration, Report.layoutVersion⟩
  summary := ⟨Tally.ofResults results, results.length, .ofVerdict (verdict results)⟩
  checks := results.map EntryReading.ofResult

/-- Reads a report. -/
def ofJson? (report : Json) : Option Reading := do
  return {
    metadata := ← Metadata.ofJson? (← report.field? "metadata")
    summary := ← ReportSummary.ofJson? (← report.field? "summary")
    checks := ← (← report.field? "checks").items? EntryReading.ofJson? }

/-- Reads a document. -/
def ofText? (text : String) : Option Reading :=
  (Json.parse? text.toList).bind ofJson?

end Reading

/-! ### The document can be printed -/

namespace Json

theorem isPrintable_ofString (text : String) : IsPrintable (ofString text) := by
  rw [ofString, IsPrintable]
  rfl

theorem isPrintable_ofNat (n : Nat) : IsPrintable (ofNat n) := by
  rw [ofNat, IsPrintable]
  exact isNumeral_repr n

theorem isPrintable_array {items : List Json} :
    IsPrintable (.array items) ↔ ∀ item ∈ items, IsPrintable item := by
  rw [IsPrintable, arePrintable_iff]

theorem isPrintable_ofStrings (texts : List String) : IsPrintable (ofStrings texts) := by
  rw [ofStrings, isPrintable_array]
  exact List.forall_mem_map.2 fun text _ => isPrintable_ofString text

theorem isPrintable_ofMembers {members : List (String × Json)} :
    IsPrintable (ofMembers members) ↔ ∀ m ∈ members, IsPrintable m.2 := by
  rw [ofMembers, IsPrintable, membersArePrintable_iff, List.forall_mem_map]
  exact forall₂_congr fun m _ => ⟨fun h => h.2, fun h => ⟨rfl, h⟩⟩

theorem isPrintable_ofTexts (texts : List (String × String)) :
    IsPrintable (ofMembers (texts.map fun t => (t.1, ofString t.2))) := by
  rw [isPrintable_ofMembers]
  exact List.forall_mem_map.2 fun t _ => isPrintable_ofString t.2

end Json

open Json

/-- Details are printable: texts, lists of them, and the literal of a percentage. -/
theorem isPrintable_details (d : Details) : IsPrintable d.toJson := by
  rw [Details.toJson, isPrintable_ofMembers]
  intro m hm
  simp only [List.mem_append, List.mem_cons, List.not_mem_nil, or_false, Option.mem_toList,
    Option.map_eq_some_iff] at hm
  rcases hm with ((rfl | rfl) | ⟨files, -, rfl⟩) | ⟨coverage, -, rfl⟩
  · exact isPrintable_ofString _
  · exact isPrintable_ofStrings _
  · exact isPrintable_ofStrings files
  -- a percentage that is too great to be a number is null, and any other has a numeral
  · rcases htext : coverage.jsonText? with - | text
    · trivial
    · show IsPrintable (.number text)
      rw [IsPrintable]
      exact isNumeral_jsonText? htext

theorem isPrintable_entryJson (e : ReportEntry) : IsPrintable (Report.entryJson e) := by
  rw [Report.entryJson, isPrintable_ofMembers]
  simp [isPrintable_ofString, isPrintable_details]

theorem isPrintable_metadata (m : Metadata) : IsPrintable m.toJson := by
  rw [Metadata.toJson, isPrintable_ofMembers]
  simp [isPrintable_ofString, isPrintable_ofTexts]

theorem isPrintable_summary (s : ReportSummary) : IsPrintable s.toJson := by
  rw [ReportSummary.toJson, isPrintable_ofMembers]
  simp [isPrintable_ofString, isPrintable_ofNat]

/-- So every report can be printed. -/
theorem isPrintable_toJson (r : Report) : IsPrintable r.toJson := by
  have hchecks : IsPrintable (.array (r.checks.map Report.entryJson)) :=
    isPrintable_array.2 (List.forall_mem_map.2 fun e _ => isPrintable_entryJson e)
  rw [Report.toJson, isPrintable_ofMembers]
  simp [isPrintable_metadata, isPrintable_summary, hchecks]

/-! ### Reading the fields -/

namespace Json

theorem mapM_map {α β γ : Type} {f : α → β} {g : β → Option γ} {k : α → γ}
    (h : ∀ a, g (f a) = some (k a)) (items : List α) : (items.map f).mapM g = some (items.map k) := by
  induction items with
  | nil => rfl
  | cons a rest ih =>
    rw [List.map_cons, List.mapM_cons, h, ih]
    rfl

@[simp] theorem string?_ofString (text : String) : (ofString text).string? = some text := rfl

@[simp] theorem nat?_ofNat (n : Nat) : (ofNat n).nat? = some n :=
  Text.readNat?_repr n

@[simp] theorem strings?_ofStrings (texts : List String) : (ofStrings texts).strings? = some texts := by
  show (texts.map ofString).mapM string? = some texts
  rw [mapM_map string?_ofString, List.map_id']

@[simp] theorem texts?_ofTexts (texts : List (String × String)) :
    (ofMembers (texts.map fun t => (t.1, ofString t.2))).texts? = some texts := by
  rw [ofMembers, List.map_map, texts?]
  have hread := mapM_map (f := fun t : String × String => (some t.1, ofString t.2))
    (g := fun m : Option String × Json => do return (← m.1, ← m.2.string?)) (k := id)
    (fun t => rfl) texts
  rw [List.map_id] at hread
  exact hread

/-- A field of an object that is made from members is the one member of its name. -/
theorem field?_ofMembers (name : String) (members : List (String × Json)) :
    (ofMembers members).field? name =
      match members.filter fun m => m.1 = name with
      | [m] => some m.2
      | _ => none := by
  have hfilter : (members.map fun m => (some m.1, m.2)).filter (fun m => m.1 = some name) =
      (members.filter fun m => m.1 = name).map fun m => (some m.1, m.2) := by
    rw [List.filter_map]
    simp [Function.comp_def]
  rw [ofMembers, field?, hfilter]
  generalize (members.filter fun m => m.1 = name) = found
  rcases found with - | ⟨m, - | ⟨m', rest⟩⟩ <;> rfl

theorem lacks_ofMembers (name : String) (members : List (String × Json)) :
    (ofMembers members).lacks name = members.all fun m => m.1 ≠ name := by
  rw [ofMembers, lacks, List.all_map]
  simp [Function.comp_def]

end Json

@[simp] theorem ofLabel?_label (s : Status) : Status.ofLabel? s.label = some s := by
  cases s <;> rfl

/-! ### Reading back -/

theorem files?_toJson (d : Details) : EntryReading.files? d.toJson = some d.files := by
  rw [EntryReading.files?, Details.toJson, lacks_ofMembers, field?_ofMembers]
  rcases d with ⟨summary, issues, - | files, - | coverage⟩ <;> simp

/-- What is said of the run is read back. -/
theorem ofJson?_metadata (m : Metadata) : Metadata.ofJson? m.toJson = some m := by
  simp [Metadata.ofJson?, Metadata.toJson, field?_ofMembers]

/-- So are the counts and the status. -/
theorem ofJson?_summary (s : ReportSummary) : ReportSummary.ofJson? s.toJson = some s := by
  simp [ReportSummary.ofJson?, ReportSummary.toJson, field?_ofMembers]

/-- So is what is said of each check. -/
theorem ofJson?_entryJson (r : CheckResult) :
    EntryReading.ofJson? (Report.entryJson (Report.entryOf r)) = some (EntryReading.ofResult r) := by
  have hsummary (d : Details) : d.toJson.field? "summary" = some (ofString d.summary) := by
    rw [Details.toJson, field?_ofMembers]
    rcases d with ⟨summary, issues, - | files, - | coverage⟩ <;> simp
  have hissues (d : Details) : d.toJson.field? "issues" = some (ofStrings d.issues) := by
    rw [Details.toJson, field?_ofMembers]
    rcases d with ⟨summary, issues, - | files, - | coverage⟩ <;> simp
  simp [EntryReading.ofJson?, Report.entryJson, Report.entryOf, field?_ofMembers, hsummary, hissues,
    files?_toJson, EntryReading.ofResult]

/-- Reading a report gives back what it was made of. -/
theorem ofJson?_toJson (results : List CheckResult) (project : Path)
    (configuration : List (String × String)) (timestamp : String) :
    Reading.ofJson? (Report.ofResults results project configuration timestamp).toJson =
      some (Reading.ofResults results project configuration timestamp) := by
  have hchecks : (Json.array (results.map (Report.entryJson ∘ Report.entryOf))).items?
      EntryReading.ofJson? = some (results.map EntryReading.ofResult) :=
    mapM_map ofJson?_entryJson results
  simp [Reading.ofJson?, Report.toJson, Report.ofResults, field?_ofMembers, ofJson?_metadata,
    ofJson?_summary, hchecks, total_ofResults, Reading.ofResults]

theorem toList_document (r : Report) : r.document.toList = r.toJson.render ++ ['\n'] := by
  rw [Report.document, String.toList_ofList]

/-- The document as a whole reads as what the report was made of. -/
theorem ofText?_document (results : List CheckResult) (project : Path)
    (configuration : List (String × String)) (timestamp : String) :
    Reading.ofText? (Report.ofResults results project configuration timestamp).document =
      some (Reading.ofResults results project configuration timestamp) := by
  rw [Reading.ofText?, toList_document, parse?_render_append (isPrintable_toJson _)
    (List.forall_mem_singleton.2 (.inr (.inr (.inl rfl))))]
  exact ofJson?_toJson results project configuration timestamp

/-- A report's document is one JSON text and a line end.  The text denotes the report's value, and
reading that value gives back the circumstances, the summary, and all results with the structured
view of their details. -/
theorem document_reads_back (results : List CheckResult) (project : Path)
    (configuration : List (String × String)) (timestamp : String) :
    let report := Report.ofResults results project configuration timestamp
    report.document.toList = report.toJson.render ++ ['\n'] ∧
    Json.parse? report.toJson.render = some report.toJson ∧
    Reading.ofJson? report.toJson =
      some (Reading.ofResults results project configuration timestamp) :=
  ⟨toList_document _, parse?_render (isPrintable_toJson _),
    ofJson?_toJson results project configuration timestamp⟩

end QualityGate
