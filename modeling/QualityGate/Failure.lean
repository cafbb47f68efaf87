/-
Failures: what the file system answers instead of data, and what ends a run.

Each is a cause; its wording is one function.  The exit code of the command follows from the kind of
failure: a bad configuration or argument is 2, everything else 3.
-/
import QualityGate.Path

namespace QualityGate

/-- What the file system answers instead of data. -/
inductive IoError where
  | notFound
  | notDirectory
  | isDirectory
  | tooManyLinks
  | nameTooLong
  | invalidUtf8
  | other (text : String)
  deriving DecidableEq

/-- The error's wording. -/
def IoError.message : IoError → String
  | .notFound => "No such file or directory (os error 2)"
  | .notDirectory => "Not a directory (os error 20)"
  | .isDirectory => "Is a directory (os error 21)"
  | .tooManyLinks => "Too many levels of symbolic links (os error 40)"
  | .nameTooLong => "File name too long (os error 36)"
  | .invalidUtf8 => "stream did not contain valid UTF-8"
  | .other text => text

/-- What is wrong with a configuration, and the file that says it or should say it, if there is one. -/
structure ConfigFault where
  reason : String
  path : Option Path := none
  deriving DecidableEq

instance : Coe String ConfigFault where
  coe reason := { reason }

/-- What ends a run. -/
inductive Failure where
  | config (fault : ConfigFault)
  | argument (reason : String)
  | io (path : Path) (cause : IoError)
  | context (reason : String)
  | internal (reason : String)
  deriving DecidableEq

namespace Failure

/-- The failure's wording. -/
def message : Failure → String
  | .config fault => "config error: " ++ fault.reason
  | .argument reason => "argument error: " ++ reason
  | .io path cause => "io error: " ++ path.text ++ ": " ++ cause.message
  | .context reason => "context error: " ++ reason
  | .internal reason => "internal error: " ++ reason

/-- The failure, found in a configuration file. -/
def inFile (path : Path) : Failure → Failure
  | .config fault => .config { fault with path }
  | cause => cause

/-- Exit code of the command that ends in the failure. -/
def exitCode : Failure → Nat
  | .config _ | .argument _ => 2
  | .io .. | .context _ | .internal _ => 3

end Failure

end QualityGate
