/-
The locations on the way that a path leads.

Following a path looks at some locations of the disk (`passes`), and nothing else decides where it leads:
on another disk where a piece does the same at each of them, the path leads to the same
(`resolve_congr`).
-/
import QualityGate.Proofs.Disk.Resolution

namespace QualityGate.Disk

variable {d d' : Disk} {loc here : Location} {p : Path} {pieces : List (List Char)} {links : Nat}

/-! ### Locations -/

/-- The location that a piece looks at. -/
def Hop.place (piece : List Char) (loc : Location) : Hop → Location
  | .go next => next
  | .stop _ | .jump _ => piece :: loc

/-- The locations that are looked at when pieces are followed; `jump` gives those behind a link. -/
def passedAlong (d : Disk) (jump : List (List Char) → Location → List Location) :
    List (List Char) → Location → List Location
  | [], loc => [loc]
  | piece :: rest, loc =>
    loc :: match d.hop piece loc with
      | .stop _ => [piece :: loc]
      | .go next => passedAlong d jump rest next
      | .jump target => (piece :: loc) :: jump (target.pieces ++ rest) (target.startFrom loc)

/-- The locations that are looked at when pieces are followed over at most so many links. -/
def passed (d : Disk) : Nat → List (List Char) → Location → List Location
  | 0 => d.passedAlong fun _ _ => []
  | links + 1 => d.passedAlong (d.passed links)

/-- The locations that are looked at when a path is followed. -/
def passes (d : Disk) (p : Path) : List Location :=
  d.passed linkLimit p.pieces (p.startFrom d.current)

theorem head_mem_passedAlong (jump : List (List Char) → Location → List Location)
    (pieces : List (List Char)) (loc : Location) : loc ∈ d.passedAlong jump pieces loc := by
  cases pieces <;> exact List.mem_cons_self

theorem place_mem_passedAlong (jump : List (List Char) → Location → List Location) (piece : List Char)
    (rest : List (List Char)) (loc : Location) :
    (d.hop piece loc).place piece loc ∈ d.passedAlong jump (piece :: rest) loc := by
  rw [passedAlong]
  apply List.mem_cons_of_mem
  rcases d.hop piece loc with cause | next | target
  · exact List.mem_singleton_self _
  · exact head_mem_passedAlong jump rest next
  · exact List.mem_cons_self

/-- What pieces lead to is looked at. -/
theorem mem_passedAlong {jump : List (List Char) → Location → Except IoError Location}
    {passedOver : List (List Char) → Location → List Location}
    (hjump : ∀ ps here, jump ps here = .ok loc → loc ∈ passedOver ps here)
    (h : d.along .find jump pieces here = .ok loc) : loc ∈ d.passedAlong passedOver pieces here := by
  induction pieces generalizing here with
  | nil =>
    obtain rfl := Except.ok.inj h
    exact List.mem_singleton_self _
  | cons piece rest ih =>
    rw [along_find_cons] at h
    rw [passedAlong]
    -- the end is passed behind the location where this piece is
    apply List.mem_cons_of_mem
    rcases hhop : d.hop piece here with cause | next | target
    · rw [hhop] at h
      cases h
    · rw [hhop] at h
      exact ih h
    · rw [hhop] at h
      exact List.mem_cons_of_mem _ (hjump _ _ h)

theorem mem_passed (h : d.follow .find links pieces here = .ok loc) :
    loc ∈ d.passed links pieces here := by
  induction links generalizing pieces here with
  | zero =>
    rw [follow_zero] at h
    refine mem_passedAlong ?_ h
    exact fun _ _ h => nomatch h
  | succ links ih => exact mem_passedAlong (fun _ _ h => ih h) h

/-- The location that a path leads to is one that it passes. -/
theorem mem_passes (h : d.resolve .find p = .ok loc) : loc ∈ d.passes p :=
  mem_passed (resolve_find_eq_ok h).2

/-! ### Two disks -/

section Congr

-- a piece does the same on both disks where what it starts from and what it looks at are of a kind
variable {P : Location → Prop}
  (hhop : ∀ piece loc, P loc → P ((d.hop piece loc).place piece loc) → d'.hop piece loc = d.hop piece loc)

include hhop

/-- Disks on which each piece does the same at all that is passed lead pieces to the same location. -/
theorem along_congr {jump jump' : List (List Char) → Location → Except IoError Location}
    {passedOver : List (List Char) → Location → List Location}
    (hjump : ∀ ps here, (∀ loc ∈ passedOver ps here, P loc) → jump' ps here = jump ps here)
    (hpassed : ∀ loc ∈ d.passedAlong passedOver pieces here, P loc) :
    d'.along .find jump' pieces here = d.along .find jump pieces here := by
  induction pieces generalizing here with
  | nil => rfl
  | cons piece rest ih =>
    -- the first piece does the same: both the location and the place it looks at are passed
    rw [along_find_cons, along_find_cons, hhop piece here (hpassed _ (head_mem_passedAlong _ _ _))
      (hpassed _ (place_mem_passedAlong _ _ _ _))]
    rw [passedAlong] at hpassed
    rcases hstep : d.hop piece here with cause | next | target
    · rfl
    · rw [hstep] at hpassed
      exact ih fun loc hloc => hpassed loc (List.mem_cons_of_mem _ hloc)
    · rw [hstep] at hpassed
      apply hjump
      exact fun loc hloc => hpassed loc (List.mem_cons_of_mem _ (List.mem_cons_of_mem _ hloc))

theorem follow_congr (hpassed : ∀ loc ∈ d.passed links pieces here, P loc) :
    d'.follow .find links pieces here = d.follow .find links pieces here := by
  induction links generalizing pieces here with
  | zero => exact along_congr hhop (fun _ _ _ => rfl) hpassed
  | succ links ih => exact along_congr hhop (fun _ _ => ih) hpassed

/-- So a path leads to the same location on them. -/
theorem resolve_congr (hcurrent : d'.current = d.current) (hp : ∀ loc ∈ d.passes p, P loc) :
    d'.resolve .find p = d.resolve .find p := by
  rw [resolve, resolve, hcurrent, follow_congr hhop hp]

end Congr

end QualityGate.Disk
