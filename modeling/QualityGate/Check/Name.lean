/-
Names of the built-in checks, in the order in which they run.
-/
import QualityGate.Tooling.Tool

namespace QualityGate.CheckName

/-- The check of naming conventions. -/
def naming : String := "Naming Conventions"

/-- The check of file lengths. -/
def fileLength : String := "File Length"

/-- The check of function lengths. -/
def functionLength : String := "Function Length"

/-- The check of docstrings. -/
def docstring : String := "Docstring Check"

/-- The check of requirements. -/
def dependency : String := "Dependency Check"

/-- The names of all built-in checks. -/
def all : List String :=
  Tool.all.map Tool.checkName ++ [naming, fileLength, functionLength, docstring, dependency]

end QualityGate.CheckName
