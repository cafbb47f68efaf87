/-
A structured view of a result's details.

The details text stays as it is; the view takes from it what is easy to find.  The summary is the
first line.  Issues and files are selected from the trimmed, non-empty lines after it, by a rule for
each check.
-/
import QualityGate.Check.Name
import QualityGate.Decimal.Shortest
import QualityGate.Json.Value
import QualityGate.Text.Casing

namespace QualityGate

/-- The structured view of a result's details. -/
structure Details where
  summary : String
  issues : List String
  files : Option (List String)
  coverage : Option Binary64
  deriving DecidableEq

namespace Details

/-- The trimmed lines after the first one, without the empty ones. -/
def bodyLines (raw : List Char) : List (List Char) :=
  (((Text.lines raw).drop 1).map Text.trim).filter (· ≠ [])

/-- The line has the form of a message with a place. -/
def looksLocated (line : List Char) : Bool :=
  line.contains ':' && line.any Text.isAsciiDigit

/-- The file that a line of an import sorter names: in the header of a diff, or in an error. -/
def unsortedFile? (line : List Char) : Option (List Char) :=
  match (Text.after? "---".toList line).bind (Text.around? ":before".toList) with
  | some (path, _) => some (Text.trim path)
  | none => do
    let rest ← Text.after? "ERROR: ".toList line
    let (path, _) ← Text.around? " Imports are incorrectly sorted".toList rest
    return Text.trim path

/-- The files that a formatter would change; without any, all lines before its errors. -/
def unformattedFiles (body : List (List Char)) : List (List Char) :=
  match body.filterMap (Text.after? "would reformat ".toList) with
  | [] => body.takeWhile (· ≠ "Errors:".toList)
  | files => files

/-- The digits, point and digits that a percent sign follows at the start of the text. -/
def percentHere? (s : List Char) : Option (List Char × List Char) :=
  let whole := s.takeWhile Text.isDigit
  let rest := s.dropWhile Text.isDigit
  if whole = [] then none
  else
    match rest with
    | '%' :: _ => some (whole, [])
    | '.' :: more =>
      let fraction := more.takeWhile Text.isDigit
      if fraction ≠ [] ∧ (more.dropWhile Text.isDigit).head? = some '%' then some (whole, fraction)
      else none
    | _ => none

/-- The first number of the text that a percent sign follows. -/
def percentDigits? : List Char → Option (List Char × List Char)
  | [] => none
  | c :: s =>
    match percentHere? (c :: s) with
    | some digits => some digits
    | none => percentDigits? s

/-- The first percentage of a line; digits outside ASCII denote none. -/
def percent? (line : List Char) : Option Binary64 :=
  match percentDigits? line with
  | some (whole, fraction) =>
    if (whole ++ fraction).all Text.isAsciiDigit then some (.ofDigits false whole fraction 0) else none
  | none => none

/-- The percentage on the first line that speaks of coverage. -/
def coverageOf? (raw : List Char) : Option Binary64 :=
  ((Text.lines raw).find? fun l => Text.contains "coverage is".toList (Text.lower l)).bind percent?

/-- The checks that give one line for each finding. -/
def listsFindings (name : String) : Bool :=
  [CheckName.naming, CheckName.fileLength, CheckName.functionLength, CheckName.docstring,
    CheckName.dependency].contains name

/-- The issues that a check's details list. -/
def issuesOf (name : String) (body : List (List Char)) : List (List Char) :=
  if name = Tool.pylint.checkName ∨ name = Tool.ruff.checkName then body.filter looksLocated
  else if name = Tool.mypy.checkName then
    body.filter fun l =>
      looksLocated l && (Text.contains "error:".toList l || Text.contains "note:".toList l)
  else if name = Tool.bandit.checkName then body.filter (Text.contains "Issue:".toList)
  else if listsFindings name then body.filterMap (Text.after? ['-', ' '])
  else []

/-- The files that a check's details list, for the checks that list files. -/
def filesOf (name : String) (raw : List Char) : Option (List (List Char)) :=
  if name = Tool.black.checkName then
    if Text.startsWith "Files need formatting".toList raw then some (unformattedFiles (bodyLines raw))
    else none
  else if name = Tool.isort.checkName then
    if Text.startsWith "Imports need sorting".toList raw then
      some ((bodyLines raw).filterMap unsortedFile?)
    else none
  else none

/-- The structured view of the details that a check gave. -/
def parse (name raw : String) : Details where
  summary := String.ofList ((Text.lines raw.toList).headD [])
  issues := (issuesOf name (bodyLines raw.toList)).map String.ofList
  files := (filesOf name raw.toList).map fun files => files.map String.ofList
  coverage := if name = Tool.coverage.checkName then coverageOf? raw.toList else none

/-- The view as a JSON value; files and coverage are left out where there are none. -/
def toJson (d : Details) : Json :=
  .ofMembers ([("summary", .ofString d.summary), ("issues", .ofStrings d.issues)] ++
    (d.files.map fun files => ("files", Json.ofStrings files)).toList ++
    (d.coverage.map fun c =>
      ("coverage_percentage", (c.jsonText?.map Json.number).getD .null)).toList)

end Details

end QualityGate
