/-
The report: one document with the circumstances of a run, its summary, and every result with the
structured view of its details.
-/
import QualityGate.Json.Printer
import QualityGate.Report.Details

namespace QualityGate

/-- The circumstances of a run. -/
structure Metadata where
  timestamp : String
  projectPath : String
  configuration : List (String × String)
  version : String

/-- Counts and verdict of a run. -/
structure ReportSummary where
  tally : Tally
  total : Nat
  status : Status

/-- One result with the structured view of its details. -/
structure ReportEntry where
  name : String
  status : Status
  rawDetails : String
  details : Details

/-- A report on a run. -/
structure Report where
  metadata : Metadata
  summary : ReportSummary
  checks : List ReportEntry

/-- The circumstances as a JSON value. -/
def Metadata.toJson (m : Metadata) : Json :=
  .ofMembers [("timestamp", .ofString m.timestamp), ("project_path", .ofString m.projectPath),
    ("configuration", .ofMembers (m.configuration.map fun o => (o.1, .ofString o.2))),
    ("version", .ofString m.version)]

/-- The counts and the verdict as a JSON value. -/
def ReportSummary.toJson (s : ReportSummary) : Json :=
  .ofMembers [("passed", .ofNat s.tally.passed), ("failed", .ofNat s.tally.failed),
    ("skipped", .ofNat s.tally.skipped), ("total", .ofNat s.total),
    ("status", .ofString s.status.label)]

namespace Report

/-- Version of the report's layout. -/
def layoutVersion : String := "1.0"

/-- The entry of a result. -/
def entryOf (r : CheckResult) : ReportEntry :=
  ⟨r.name, r.status, r.details, Details.parse r.name r.details⟩

/-- The report on the results of a run; the configuration is listed in the order it is given in. -/
def ofResults (results : List CheckResult) (project : Path) (configuration : List (String × String))
    (timestamp : String) : Report where
  metadata := ⟨timestamp, project.text, configuration, layoutVersion⟩
  summary := ⟨Tally.ofResults results, (Tally.ofResults results).total, .ofVerdict (verdict results)⟩
  checks := results.map entryOf

/-- The entry as a JSON value. -/
def entryJson (e : ReportEntry) : Json :=
  .ofMembers [("name", .ofString e.name), ("status", .ofString e.status.label),
    ("raw_details", .ofString e.rawDetails), ("details", e.details.toJson)]

/-- The report as a JSON value. -/
def toJson (r : Report) : Json :=
  .ofMembers [("metadata", r.metadata.toJson), ("summary", r.summary.toJson),
    ("checks", .array (r.checks.map entryJson))]

/-- The report's document: its JSON text and a line end. -/
def document (r : Report) : String :=
  String.ofList (r.toJson.render ++ ['\n'])

end Report

end QualityGate
