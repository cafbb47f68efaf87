/-
Saving a report to a file.
-/
import QualityGate.Disk.Resolve
import QualityGate.Report.Document

namespace QualityGate.Report

/-- The disk with the report's document in the file that the path leads to. -/
def save (r : Report) (d : Disk) (path : Path) : Except Failure Disk :=
  (d.write path (Text.encode r.document.toList)).mapError (.io path)

end QualityGate.Report
