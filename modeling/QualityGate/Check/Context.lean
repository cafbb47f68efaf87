/-
What a check is given: the project, its source directories, the configuration and the disk.

A check works only for a project with an absolute path.  Paths are shown as they stand below the
project, and the sources are the Python files below the source directories, each once.
-/
import QualityGate.Check.Trace
import QualityGate.Disk.Walk

namespace QualityGate

/-- What a check is given. -/
structure Context where
  project : Path
  sourceDirs : List Path
  config : Config
  disk : Disk

/-- The name of a Python file. -/
def isPythonFile (path : Path) : Bool :=
  path.extension? = some "py".toList

/-- The name of a file of tests. -/
def isTestFile (path : Path) : Bool :=
  path.fileName?.any fun name =>
    Text.contains "test_".toList name || Text.startsWith "test".toList name

/-- The paths without those that name the same steps as an earlier or a seen one. -/
def distinctAfter (seen : List Path) : List Path → List Path
  | [] => []
  | path :: rest =>
    if seen.any path.same then distinctAfter seen rest
    else path :: distinctAfter (path :: seen) rest

namespace Context

/-- The project, if its path is absolute. -/
def requireProject (ctx : Context) : Except Failure Path :=
  if ctx.project.text = "" then .error (.context "no project path provided")
  else if ctx.project.isAbsolute then .ok ctx.project
  else .error (.context ("project path must be absolute: " ++ ctx.project.text))

/-- The source directories below the project, in their order. -/
def roots (ctx : Context) : List Path :=
  ctx.sourceDirs.map ctx.project.join

/-- A path as it is shown: what remains of it below the project. -/
def shown (ctx : Context) (path : Path) : Path :=
  (path.relativeTo? ctx.project).getD path

/-- Files below a path, as the configuration wants them searched. -/
def list (ctx : Context) (accept : Path → Bool) (root : Path) : Listing :=
  ctx.disk.list ctx.config.paths.excludeDirs accept root

/-- Python files of each source directory that is there. -/
def sourceListings (ctx : Context) : List Listing :=
  (ctx.roots.filter ctx.disk.isDirectory).map (ctx.list isPythonFile)

/-- The sources: the files of one directory after those of another, each once. -/
def sources (ctx : Context) : Traced (List Path) := do
  let listings := ctx.sourceListings
  Traced.warn (listings.flatMap Listing.warnings)
  return distinctAfter [] (listings.flatMap Listing.files)

end Context

end QualityGate
