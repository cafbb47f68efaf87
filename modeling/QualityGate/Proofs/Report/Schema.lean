/-
The schema of a report, and which documents conform to it.

`Report.schema` is the schema document, keyword by keyword.  What a report holds conforms to it whatever
the results are, with two exceptions.  The timestamp is taken as it is given.  The percentage of the
coverage is kept as a number of the 64-bit binary format, and one that is infinite is printed as null,
which is no number.

So a document conforms exactly if its timestamp has the right form and no result of the coverage states a
percentage from the overflow threshold on (`document_conforms_iff`).  309 digits behind the first one are
enough to state such a percentage (`not_conforms_of_long_percentage`).
-/
import QualityGate.Proofs.Decimal.Overflow
import QualityGate.Proofs.Json.Schema
import QualityGate.Proofs.Report.Coverage
import QualityGate.Proofs.Report.Document

namespace QualityGate

open Json Schema

namespace Report

/-! ### The schema -/

/-- The form of a timestamp: date and time of day in the zone without offset. -/
def timestampForm : String :=
  "0000-00-00T00:00:00Z"

/-- The circumstances of a run; the configuration has strings under any names. -/
def metadataSchema : Schema :=
  objectWith ["timestamp", "project_path", "configuration", "version"]
    [("timestamp", form timestampForm), ("project_path", anyString),
      ("configuration", objectWith [] [] anyString), ("version", oneOf ["1.0"])]
    nothing

/-- Counts and verdict of a run. -/
def summarySchema : Schema :=
  objectWith ["passed", "failed", "skipped", "total", "status"]
    [("passed", integerFrom 0), ("failed", integerFrom 0), ("skipped", integerFrom 0),
      ("total", integerFrom 0), ("status", oneOf ["PASSED", "FAILED"])]
    nothing

/-- The structured view of a result's details. -/
def detailsSchema : Schema :=
  objectWith ["summary", "issues"]
    [("summary", anyString), ("issues", arrayOf anyString), ("files", arrayOf anyString),
      ("coverage_percentage", numberFrom 0)]
    nothing

/-- One result. -/
def checkSchema : Schema :=
  objectWith ["name", "status", "raw_details", "details"]
    [("name", anyString), ("status", oneOf ["PASSED", "FAILED", "SKIPPED"]), ("raw_details", anyString),
      ("details", detailsSchema)]
    nothing

/-- A report. -/
def schema : Schema :=
  objectWith ["metadata", "summary", "checks"]
    [("metadata", metadataSchema), ("summary", summarySchema), ("checks", arrayOf checkSchema)]
    nothing

end Report

/-! ### Coverage -/

namespace Details

/-- The first percentage of a line, exactly. -/
def exactPercent? (line : List Char) : Option ℚ :=
  match percentDigits? line with
  | some (whole, fraction) =>
    if (whole ++ fraction).all Text.isAsciiDigit then
      some (Text.natOfDigits (whole ++ fraction) / 10 ^ fraction.length)
    else none
  | none => none

/-- The percentage that details of the coverage state, exactly. -/
def statedCoverage? (raw : List Char) : Option ℚ :=
  ((Text.lines raw).find? fun l => Text.contains "coverage is".toList (Text.lower l)).bind exactPercent?

/-- A number as it is printed for the coverage. -/
def coverageJson (c : Binary64) : Json :=
  (c.jsonText?.map Json.number).getD .null

/-- A percentage is printed as a number exactly if it is below the threshold. -/
theorem numberFrom_ofDigits (whole fraction : List Char) :
    numberFrom 0 (coverageJson (.ofDigits false whole fraction 0)) = true ↔
      (Text.natOfDigits (whole ++ fraction) / 10 ^ fraction.length : ℚ) < Binary64.overflowThreshold := by
  have hvalue : (Text.natOfDigits (whole ++ fraction) : ℚ) * 10 ^ (0 - fraction.length : ℤ) =
      Text.natOfDigits (whole ++ fraction) / 10 ^ fraction.length := by
    rw [zero_sub, zpow_neg, zpow_natCast, div_eq_mul_inv]
  have hinfinite := Binary64.ofDecimal_eq_infinite_iff false (Text.natOfDigits (whole ++ fraction))
    (0 - fraction.length)
  rw [hvalue] at hinfinite
  rw [Binary64.ofDigits]
  rcases Binary64.ofDecimal_cases false (Text.natOfDigits (whole ++ fraction)) (0 - fraction.length)
    with h | ⟨m, e, h⟩
  · -- null stands in the place of the number
    rw [h]
    exact iff_of_false Bool.false_ne_true (not_lt.2 (hinfinite.1 h))
  · -- the literal has no sign, so the number is not negative
    obtain ⟨body, htext, hbody⟩ := exists_jsonText? false m e
    have hfinite : Binary64.ofDecimal false (Text.natOfDigits (whole ++ fraction))
        (0 - fraction.length) ≠ .infinite false := by
      rw [h]
      intro heq
      cases heq
    rw [h, coverageJson, htext]
    refine iff_of_true (numberFrom_of_isUnsigned ?_) (not_le.1 (mt hinfinite.2 hfinite))
    rw [String.toList_ofList]
    exact hbody

/-- Of a percentage that a line states, the number that is kept is printed as a number exactly if the
percentage is below the threshold. -/
theorem percent?_all (line : List Char) :
    (percent? line).all (fun c => numberFrom 0 (coverageJson c)) = true ↔
      ∀ q, exactPercent? line = some q → q < Binary64.overflowThreshold := by
  rw [percent?, exactPercent?]
  rcases percentDigits? line with - | ⟨whole, fraction⟩
  · simp
  -- other digits than the ten of ASCII are not read as a number
  · by_cases hdigits : (whole ++ fraction).all Text.isAsciiDigit = true
    · simp only [hdigits, if_true, Option.all_some, numberFrom_ofDigits, Option.some.injEq, forall_eq']
    · simp [hdigits]

/-- The coverage in details is a number from zero on unless it overflows. -/
theorem coverageOf?_all (raw : List Char) :
    (coverageOf? raw).all (fun c => numberFrom 0 (coverageJson c)) = true ↔
      ∀ q, statedCoverage? raw = some q → q < Binary64.overflowThreshold := by
  rw [coverageOf?, statedCoverage?]
  rcases (Text.lines raw).find? _ with - | line
  · simp
  · exact percent?_all line

theorem coverage_parse (raw : List Char) :
    (parse Tool.coverage.checkName (String.ofList raw)).coverage = coverageOf? raw := by
  rw [parse, if_pos rfl, String.toList_ofList]

end Details

/-! ### What conforms -/

namespace Report

/-- The metadata conform if and only if the time has its form. -/
theorem metadataSchema_toJson (timestamp project : String) (configuration : List (String × String)) :
    metadataSchema (Metadata.mk timestamp project configuration layoutVersion).toJson =
      fits timestampForm.toList timestamp.toList := by
  have hconfiguration : objectWith [] [] anyString
      (ofMembers (configuration.map fun o => (o.1, ofString o.2))) = true := by
    simp [objectWith_ofMembers, List.all_map, Function.comp_def]
  simp [metadataSchema, Metadata.toJson, hconfiguration, List.lookup_cons, layoutVersion]

/-- The counts always conform. -/
theorem summarySchema_toJson (tally : Tally) (total : Nat) (passed : Bool) :
    summarySchema (ReportSummary.mk tally total (.ofVerdict passed)).toJson = true := by
  cases passed <;>
    simp [summarySchema, ReportSummary.toJson, List.lookup_cons, Status.ofVerdict, Status.label]

/-- All of the structured view conforms, the coverage apart. -/
theorem detailsSchema_toJson (d : Details) :
    detailsSchema d.toJson = d.coverage.all fun c => numberFrom 0 (Details.coverageJson c) := by
  rcases d with ⟨summary, issues, - | files, - | coverage⟩ <;>
    simp [detailsSchema, Details.toJson, List.lookup_cons, Details.coverageJson]

/-- An entry conforms if and only if its coverage does. -/
theorem checkSchema_entryJson (r : CheckResult) :
    checkSchema (entryJson (entryOf r)) =
      (Details.parse r.name r.details).coverage.all fun c => numberFrom 0 (Details.coverageJson c) := by
  have hstatus : oneOf ["PASSED", "FAILED", "SKIPPED"] (ofString r.status.label) = true := by
    cases r.status <;> rfl
  simp [-oneOf_ofString, checkSchema, entryJson, entryOf, List.lookup_cons, hstatus, detailsSchema_toJson]

/-- A document conforms exactly if its timestamp has its form and all coverage is printed as numbers. -/
theorem acceptsText_document (results : List CheckResult) (project : Path)
    (configuration : List (String × String)) (timestamp : String) :
    schema.acceptsText (ofResults results project configuration timestamp).document.toList =
      (fits timestampForm.toList timestamp.toList &&
        results.all fun r => (Details.parse r.name r.details).coverage.all fun c =>
          numberFrom 0 (Details.coverageJson c)) := by
  have hchecks : arrayOf checkSchema (.array (results.map (entryJson ∘ entryOf))) =
      results.all fun r => (Details.parse r.name r.details).coverage.all fun c =>
        numberFrom 0 (Details.coverageJson c) := by
    rw [arrayOf, List.all_map]
    congr 1
    funext r
    exact checkSchema_entryJson r
  rw [Schema.acceptsText, toList_document, parse?_render_append (isPrintable_toJson _)
    (List.forall_mem_singleton.2 (.inr (.inr (.inl rfl))))]
  simp [schema, toJson, ofResults, List.lookup_cons, metadataSchema_toJson, summarySchema_toJson, hchecks]

/-- A document conforms to the schema exactly if its timestamp has the form that the schema asks for, and
no result of the coverage states a percentage from the overflow threshold on. -/
theorem document_conforms_iff (results : List CheckResult) (project : Path)
    (configuration : List (String × String)) (timestamp : String) :
    schema.acceptsText (ofResults results project configuration timestamp).document.toList = true ↔
      fits timestampForm.toList timestamp.toList = true ∧
        ∀ r ∈ results, r.name = Tool.coverage.checkName →
          ∀ q, Details.statedCoverage? r.details.toList = some q → q < Binary64.overflowThreshold := by
  rw [acceptsText_document, Bool.and_eq_true, List.all_eq_true]
  refine and_congr_right fun _ => forall₂_congr fun r _ => ?_
  rw [Details.parse]
  dsimp only
  by_cases hname : r.name = Tool.coverage.checkName
  · rw [if_pos hname, Details.coverageOf?_all]
    exact ⟨fun h _ => h, fun h => h hname⟩
  · rw [if_neg hname]
    exact iff_of_true rfl fun h => absurd h hname

/-- A percentage of 310 digits is infinite, and so the document holds null in the place of a number. -/
theorem not_conforms_of_long_percentage :
    fits timestampForm.toList "2026-01-01T00:00:00Z".toList = true ∧
      schema.acceptsText (ofResults
        [⟨Tool.coverage.checkName, .failed,
          String.ofList ("coverage is 1".toList ++ zeros 309 ++ ['%'])⟩]
        ⟨"/p"⟩ [] "2026-01-01T00:00:00Z").document.toList = false := by
  -- that the details speak of coverage, and of which number, is found by evaluation
  have hspeaks : Text.contains "coverage is".toList
      (Text.lower ("coverage is 1".toList ++ zeros 309 ++ ['%'])) = true := by decide +kernel
  have hpercent : Details.percent? ("coverage is 1".toList ++ zeros 309 ++ ['%']) =
      some (.infinite false) := by decide +kernel
  have hne : "coverage is 1".toList ++ zeros 309 ++ ['%'] ≠ [] :=
    List.append_ne_nil_of_right_ne_nil _ (List.cons_ne_nil _ _)
  have hcoverage := Details.coverageOf?_of_notMem (by decide +kernel) hne hspeaks
  refine ⟨by decide, ?_⟩
  rw [acceptsText_document, List.all_cons, Details.coverage_parse, hcoverage, hpercent]
  rfl

end Report

end QualityGate
