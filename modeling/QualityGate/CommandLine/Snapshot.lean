/-
A snapshot: what a run depends on besides its words and its environment.

A run is a function, so the disk that it looks at and the answers of the programs that it starts are
given beforehand.  A snapshot is written as a JSON object with the members `current`, the path of the
current directory; `entries`, by path what a file holds, null for a directory, and an object with a
`target` for a link or with an `error` for a file that cannot be read; `answers`, by program its exit code
and what it writes to its two streams; and `time`.  What a file holds and what a program writes is a text,
or a list of bytes where it need not be one.
-/
import QualityGate.CommandLine.Run
import QualityGate.Json.Reader

namespace QualityGate

/-- A disk, the answers of the programs that can be started, and the time. -/
structure Snapshot where
  disk : Disk
  answers : List (String × ToolAnswer)
  time : String

namespace Snapshot

/-- The location that a path without links leads to from the root. -/
def locationOf (path : String) : Location :=
  ((⟨path⟩ : Path).pieces.filter fun piece => !Path.isVoid piece).reverse

/-- A byte. -/
def byteOf? : Json → Option UInt8
  | .number literal => do
    let n ← literal.toNat?
    if n < 256 then some (UInt8.ofNat n) else none
  | _ => none

/-- What a file holds or a program writes. -/
def bytesOf? : Json → Option (List UInt8)
  | .string (some text) => some (Text.encode text.toList)
  | .array items => items.mapM byteOf?
  | _ => none

/-- An entry of the disk. -/
def entryOf? : Json → Option Entry
  | .null => some .directory
  | .object members =>
    match Json.member? members "target" with
    | some target => target.string?.map fun text => .link ⟨text⟩
    | none => do
      let cause ← (← Json.member? members "error").string?
      return .unreadable (.other cause)
  | contents => (bytesOf? contents).map .file

/-- The exit code of a program; null where a signal ended it. -/
def codeOf? : Json → Option (Option Int)
  | .number literal => literal.toInt?.map some
  | .null => some none
  | _ => none

/-- The answer of a program. -/
def answerOf? : Json → Option ToolAnswer
  | .object members => do
    let code ← codeOf? (← Json.member? members "code")
    let stdout ← bytesOf? (← Json.member? members "stdout")
    let stderr ← bytesOf? (← Json.member? members "stderr")
    return .ofBytes code stdout stderr
  | _ => none

/-- Members whose names and values can all be read. -/
def membersOf? {α : Type} (read : Json → Option α) : Json → Option (List (String × α))
  | .object members => members.mapM fun m => do return (← m.1, ← read m.2)
  | _ => none

/-- The disk with the given entries and directories above them. -/
def diskOf (current : String) (entries : List (String × Entry)) : Disk :=
  let disk := entries.foldl (fun (d : Disk) e => d.putDeep (locationOf e.1) e.2) Disk.empty
  disk.startingFrom (locationOf current)

/-- The snapshot that a JSON value denotes. -/
def ofJson? : Json → Option Snapshot
  | .object members => do
    let current ← (← Json.member? members "current").string?
    let entries ← membersOf? entryOf? (← Json.member? members "entries")
    let answers ← membersOf? answerOf? (← Json.member? members "answers")
    let time ← (← Json.member? members "time").string?
    return ⟨diskOf current entries, answers, time⟩
  | _ => none

/-- The snapshot that a text denotes. -/
def parse? (text : String) : Option Snapshot :=
  (Json.parse? text.toList).bind ofJson?

/-- Answers as the snapshot says; a program that is not in it cannot be started. -/
def runner (s : Snapshot) : ToolRunner := fun call =>
  match s.answers.find? fun a => a.1 = call.program with
  | some a => .ok a.2
  | none => .error IoError.notFound.message

/-- The run with the given words and environment. -/
def invocation (s : Snapshot) (words : List String) (environment : Environment) (terminal : Bool) :
    Invocation :=
  ⟨words, environment, s.disk, s.runner, terminal, s.time⟩

end Snapshot

/-- The files that are on the disk behind a run and were not there, in this form, before it. -/
def Answer.written (a : Answer) (before : Disk) : List (Path × List UInt8) :=
  a.disk.entries.filterMap fun e =>
    match e.2 with
    | .file bytes => if before.lookup? e.1 = some e.2 then none else some (Disk.pathOf e.1, bytes)
    | _ => none

end QualityGate
