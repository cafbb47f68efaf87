/-
The command.

It takes its words and its environment from the system and a snapshot from the standard input, and
leaves what the run leaves: two streams, the saved report, and the exit code.
-/
import QualityGate.CommandLine.Snapshot

namespace QualityGate

/-- What is left of a stream. -/
partial def remaining (input : IO.FS.Stream) (read : String) : IO String := do
  let line ← input.getLine
  if line.isEmpty then return read else remaining input (read ++ line)

/-- The variables of the environment that a run asks for. -/
def systemEnvironment : IO Environment := do
  let found ← Help.variableNames.mapM fun name => do
    return (← IO.getEnv name).map fun value => (name, value)
  return found.filterMap id

/-- Leaves what a run leaves. -/
def leave (before : Disk) (a : Answer) : IO UInt32 := do
  IO.print a.stdout
  IO.eprint a.stderr
  for (path, bytes) in a.written before do
    IO.FS.writeBinFile path.text ⟨bytes.toArray⟩
  return a.exitCode.toUInt32

/-- Runs the command on the snapshot that the standard input holds. -/
def command (words : List String) : IO UInt32 := do
  let text ← remaining (← IO.getStdin) ""
  let terminal ← (← IO.getStdout).isTty
  let environment ← systemEnvironment
  match Snapshot.parse? text with
  | some s => leave s.disk (s.invocation words environment terminal).run
  | none =>
    IO.eprint (ownLine "the standard input holds no snapshot")
    return 2

end QualityGate

/-- Runs the command on its words. -/
def main (words : List String) : IO UInt32 :=
  QualityGate.command words
