/-
Where the configuration of a project is.

Without a path of its own, a run takes the nearest configuration file at or above the project; the
first directory that holds a repository is the last one searched.
-/
import QualityGate.Config.Decode
import QualityGate.Disk.Resolve

namespace QualityGate.Config

/-- The name of a configuration file. -/
def fileName : String := "codegate.toml"

/-- The name of what a repository keeps in its topmost directory. -/
def repositoryName : String := ".git"

/-- The first configuration file in the directories, up to the first that holds a repository. -/
def findIn? (d : Disk) : List Path → Option Path
  | [] => none
  | dir :: rest =>
    if d.isFile (dir.child fileName) then some (dir.child fileName)
    else if d.holds (dir.child repositoryName) then none
    else findIn? d rest

/-- The nearest configuration file at or above a project. -/
def find? (d : Disk) (project : Path) : Option Path :=
  findIn? d project.ancestors

/-- The configuration file of a run: the given one, which has to be a file, or the nearest one. -/
def locate (d : Disk) (given : Option Path) (project : Path) : Except Failure (Option Path) :=
  match given with
  | none => .ok (find? d project)
  | some path =>
    if d.isFile path then .ok (some path)
    else .error (.config ⟨"config file not found: " ++ path.text, path⟩)

/-- Reads a configuration file. -/
def load (d : Disk) (path : Path) : Reading :=
  match d.readText path with
  | .ok text =>
    let reading := read text
    { reading with config := reading.config.mapError (.inFile path) }
  | .error cause => ⟨[], .error (.io path cause)⟩

end QualityGate.Config
