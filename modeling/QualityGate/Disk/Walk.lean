/-
Walking below a directory.

A walk enters every directory and every link to one, and meets files, links to files, links that lead
nowhere, and loops.  A loop is a link to a directory that the walk is in; it is not entered.  A
directory whose name is to be skipped is not entered either, the one the walk starts from excepted.

The walk ends because a link is entered only if it adds a directory to those that the walk is in, and
what is no link lies deeper than the directory that holds it.
-/
import QualityGate.Disk.Resolve

namespace QualityGate

/-- A directory that a walk is in, and the path on which it came there. -/
structure Station where
  path : Path
  location : Location

/-- What a walk meets. -/
inductive Encounter where
  | file (path : Path)
  | loop (path above : Path)
  | fault (path : Path) (cause : IoError)

/-- What an entry of a directory is for a walk. -/
inductive Step where
  | file
  | enter (location : Location)
  | loop (above : Path)
  | fault (cause : IoError)

namespace Disk

/-- What the entry at a location is for a walk that is in the directories of the trail and comes to
it on the given path. -/
def step (d : Disk) (trail : List Station) (path : Path) (loc : Location) : Step :=
  match d.lookup? loc with
  | none => .fault .notFound
  | some (.file _) | some (.unreadable _) => .file
  | some .directory => .enter loc
  | some (.link _) =>
    match d.resolve .find path with
    | .error cause => .fault cause
    | .ok target =>
      if d.isDirectoryAt target then
        match trail.find? fun s => s.location = target with
        | some s => .loop s.path
        | none => .enter target
      else .file

/-- Number of directories that the walk is not in. -/
def unseen (d : Disk) (trail : List Station) : Nat :=
  d.directories.countP fun loc => trail.all fun s => s.location ≠ loc

/-! ### A walk ends -/

theorem countP_lt_countP {α : Type} {p q : α → Bool} {xs : List α} {x : α} (hx : x ∈ xs)
    (hp : p x = true) (hq : q x = false) (himp : ∀ a, q a = true → p a = true) :
    xs.countP q < xs.countP p := by
  induction xs with
  | nil => cases hx
  | cons a rest ih =>
    rw [List.countP_cons, List.countP_cons]
    have hle : rest.countP q ≤ rest.countP p := List.countP_mono_left fun a _ => himp a
    rcases List.mem_cons.1 hx with rfl | hx
    · rw [hp, hq]
      simp only [Bool.false_eq_true, if_false, if_true]
      omega
    · have hlt := ih hx
      have hcase := himp a
      by_cases hqa : q a = true
      · rw [hqa, hcase hqa]
        omega
      · rw [if_neg hqa]
        omega

theorem unseen_cons_le (d : Disk) (s : Station) (trail : List Station) :
    d.unseen (s :: trail) ≤ d.unseen trail := by
  refine List.countP_mono_left fun loc _ h => ?_
  rw [List.all_cons, Bool.and_eq_true] at h
  exact h.2

theorem unseen_cons_lt {d : Disk} {s : Station} {trail : List Station}
    (hdir : d.isDirectoryAt s.location = true)
    (hnew : (trail.find? fun t => t.location = s.location) = none) :
    d.unseen (s :: trail) < d.unseen trail := by
  refine countP_lt_countP (mem_directories hdir) ?_ ?_ ?_
  · rw [List.find?_eq_none] at hnew
    rw [List.all_eq_true]
    intro t ht
    have := hnew t ht
    simpa using this
  · simp
  · intro loc h
    rw [List.all_cons, Bool.and_eq_true] at h
    exact h.2

/-- Entering leaves fewer directories unseen, or as many and less depth below. -/
theorem lex_of_enter {d : Disk} {here : Station} {above : List Station} {path : Path}
    {name : List Char} {target : Location}
    (h : d.step (here :: above) path (name :: here.location) = .enter target) :
    Prod.Lex (· < ·) (· < ·)
      (d.unseen (⟨path, target⟩ :: here :: above), d.height - target.length)
      (d.unseen (here :: above), d.height - here.location.length) := by
  unfold step at h
  split at h
  · cases h
  · cases h
  · cases h
  · next hentry =>
    obtain rfl := Step.enter.inj h
    have hheight := length_le_height hentry
    rw [List.length_cons] at hheight
    rcases Nat.lt_or_eq_of_le (unseen_cons_le d ⟨path, name :: here.location⟩ (here :: above)) with hlt | heq
    · exact .left _ _ hlt
    · rw [heq, List.length_cons]
      exact .right _ (by omega)
  · split at h
    · cases h
    · split at h
      · next hdir =>
        split at h
        · cases h
        · next hnew =>
          obtain rfl := Step.enter.inj h
          exact .left _ _ (unseen_cons_lt (s := ⟨path, _⟩) hdir hnew)
      · cases h

/-- What a walk meets in the directory that it is in, and below. -/
def walkFrom (d : Disk) (skip : List Char → Bool) (here : Station) (above : List Station) :
    List Encounter :=
  (d.names here.location).flatMap fun name =>
    let path := here.path.child (String.ofList name)
    match _h : d.step (here :: above) path (name :: here.location) with
    | .file => [.file path]
    | .enter target => if skip name then [] else d.walkFrom skip ⟨path, target⟩ (here :: above)
    | .loop above => [.loop path above]
    | .fault cause => [.fault path cause]
termination_by (d.unseen (here :: above), d.height - here.location.length)
decreasing_by exact lex_of_enter _h

/-- What a walk meets that starts on a path. -/
def walk (d : Disk) (skip : List Char → Bool) (root : Path) : List Encounter :=
  match d.resolve .find root with
  | .error cause => [.fault root cause]
  | .ok loc => if d.isDirectoryAt loc then d.walkFrom skip ⟨root, loc⟩ [] else [.file root]

end Disk

/-! ### What a walk found -/

namespace Encounter

/-- The file that was met. -/
def file? : Encounter → Option Path
  | .file path => some path
  | _ => none

/-- A loop was met. -/
def isLoop : Encounter → Bool
  | .loop .. => true
  | _ => false

/-- Something could not be followed. -/
def isFault : Encounter → Bool
  | .fault .. => true
  | _ => false

/-- What is said of a loop, or of what could not be followed. -/
def warning? : Encounter → Option String
  | .file _ => none
  | .loop path above =>
    some ("symlink loop skipped: File system loop found: " ++ path.text ++
      " points to an ancestor " ++ above.text)
  | .fault path cause =>
    some ("walk error: " ++ path.text ++ ": IO error for operation on " ++ path.text ++ ": " ++
      cause.message)

end Encounter

/-- Files in the order of their paths, how many there are, and what else a walk met. -/
structure Listing where
  files : List Path
  found : Nat
  loops : Nat
  faults : Nat
  warnings : List String

namespace Disk

/-- The name is one of those to be skipped. -/
def excludes (exclude : List String) (name : List Char) : Bool :=
  exclude.contains (String.ofList name)

/-- Lists the accepted files on and below a path; directories with an excluded name are skipped. -/
def list (d : Disk) (exclude : List String) (accept : Path → Bool) (root : Path) : Listing :=
  let met := d.walk (excludes exclude) root
  ⟨Path.sort ((met.filterMap Encounter.file?).filter accept), met.countP (·.file?.any accept),
    met.countP Encounter.isLoop, met.countP Encounter.isFault, met.filterMap Encounter.warning?⟩

end Disk

end QualityGate
