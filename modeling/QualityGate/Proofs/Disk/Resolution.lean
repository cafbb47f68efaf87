/-
What a path leads to, from what the path above it leads to.

At a location one piece does one of three things (`Hop`): it goes on to a location, it jumps to the
target of a link, or it stops.  Following pieces that are put together from two parts is therefore
following the second part from where the first one leads, over some number of links
(`follow_append_of_ok`); if the first part leads nowhere, neither does the whole.  So a path below a
directory is decided by the entry of its last name (`resolve_child`).

What a path leads to is there and is no link (`resolve_find_settled`), because every disk is a tree:
above a directory there are only directories.
-/
import Mathlib.Data.List.Nodup
import QualityGate.Proofs.Path.Below

namespace QualityGate.Disk

variable {d : Disk} {jump : List (List Char) → Location → Except IoError Location}

/-! ### One piece -/

/-- What one piece does at a location. -/
inductive Hop where
  | stop (cause : IoError)
  | go (next : Location)
  | jump (target : Path)

/-- What a piece does at a location when something that is there is looked for. -/
def hop (d : Disk) (piece : List Char) (loc : Location) : Hop :=
  if !d.isDirectoryAt loc then .stop .notDirectory
  else if Path.isVoid piece then .go loc
  else if piece = ['.', '.'] then .go loc.tail
  else if nameLimit < (Text.encode piece).length then .stop .nameTooLong
  else
    match d.lookup? (piece :: loc) with
    | none => .stop .notFound
    | some (.link target) => .jump target
    | some _ => .go (piece :: loc)

/-- Where something that is there is looked for, following pieces is following the first and going on from
where it leads. -/
theorem along_find_cons (d : Disk) (jump : List (List Char) → Location → Except IoError Location)
    (piece : List Char) (rest : List (List Char)) (loc : Location) :
    d.along .find jump (piece :: rest) loc =
      match d.hop piece loc with
      | .stop cause => .error cause
      | .go next => d.along .find jump rest next
      | .jump target => jump (target.pieces ++ rest) (target.startFrom loc) := by
  rw [along, hop]
  -- one case for each test that `along` and `hop` make, in their order
  by_cases hdir : d.isDirectoryAt loc = true
  · by_cases hvoid : Path.isVoid piece = true
    · simp [hdir, hvoid]
    · by_cases hparent : piece = ['.', '.']
      · simp [hdir, hparent, Path.isVoid]
      · by_cases hlong : nameLimit < (Text.encode piece).length
        · simp [hdir, hvoid, hparent, hlong]
        · simp only [hdir, hvoid, hparent, hlong]
          rcases d.lookup? (piece :: loc) with - | - | - | - | - <;> simp [missing]
  · simp [hdir]

/-- A name in a directory leads to its entry, or to where its link leads. -/
theorem hop_of_isEntryName {name : List Char} {loc : Location} (hdir : d.isDirectoryAt loc = true)
    (hname : isEntryName name = true) :
    d.hop name loc =
      match d.lookup? (name :: loc) with
      | none => .stop .notFound
      | some (.link target) => .jump target
      | some _ => .go (name :: loc) := by
  obtain ⟨⟨⟨hvoid, hparent⟩, -⟩, hshort⟩ := Path.isEntryName_iff.1 hname
  rw [hop, hdir, hvoid, if_neg hparent, if_neg (Nat.not_lt.2 hshort)]
  rfl

theorem isFileAt_iff {loc : Location} :
    d.isFileAt loc = true ↔ ∃ entry, d.lookup? loc = some entry ∧ entry.isFile = true := by
  rw [isFileAt, Option.any_eq_true]

/-- A piece goes on to a file, whatever is in it and whether or not it can be read. -/
theorem hop_of_isFileAt {piece : List Char} {loc : Location} (h : d.isFileAt (piece :: loc) = true) :
    d.hop piece loc =
      if !d.isDirectoryAt loc then .stop .notDirectory
      else if Path.isVoid piece then .go loc
      else if piece = ['.', '.'] then .go loc.tail
      else if nameLimit < (Text.encode piece).length then .stop .nameTooLong
      else .go (piece :: loc) := by
  obtain ⟨entry, hentry, hfile⟩ := isFileAt_iff.1 h
  rw [hop, hentry]
  cases entry with
  | file | unreadable => rfl
  | directory | link => cases hfile

/-! ### Pieces in two parts -/

theorem follow_zero : d.follow .find 0 = d.along .find fun _ _ => .error .tooManyLinks := rfl

theorem follow_succ (links : Nat) :
    d.follow .find (links + 1) = d.along .find (d.follow .find links) := rfl

/-- The first part of the pieces leads somewhere: the whole goes on from there. -/
theorem along_append_of_ok (links : Nat) (hself : d.follow .find links = d.along .find jump)
    (hjump : ∀ ps loc mid, jump ps loc = .ok mid →
      ∃ left, ∀ qs, jump (ps ++ qs) loc = d.follow .find left qs mid)
    (ps : List (List Char)) (loc mid : Location) (h : d.along .find jump ps loc = .ok mid) :
    ∃ left, ∀ qs, d.along .find jump (ps ++ qs) loc = d.follow .find left qs mid := by
  induction ps generalizing loc with
  | nil =>
    obtain rfl := Except.ok.inj h
    exact ⟨links, fun qs => by rw [hself, List.nil_append]⟩
  | cons piece rest ih =>
    rw [along_find_cons] at h
    simp only [List.cons_append, along_find_cons]
    rcases hhop : d.hop piece loc with cause | next | target
    · simp [hhop] at h
    · rw [hhop] at h
      exact ih next h
    · rw [hhop] at h
      -- a link's own pieces stand before the rest, so both parts of the split are behind them
      simp only [← List.append_assoc]
      exact hjump _ _ mid h

/-- The same over any number of links, since the pieces behind a link are followed over one link less. -/
theorem follow_append_of_ok {links : Nat} {ps : List (List Char)} {loc mid : Location}
    (h : d.follow .find links ps loc = .ok mid) :
    ∃ left, ∀ qs, d.follow .find links (ps ++ qs) loc = d.follow .find left qs mid := by
  induction links generalizing ps loc mid with
  | zero => exact along_append_of_ok 0 follow_zero nofun ps loc mid h
  | succ links ih =>
    exact along_append_of_ok (links + 1) (follow_succ links) (fun _ _ _ h => ih h) ps loc mid h

/-- The first part of the pieces leads nowhere: neither does the whole. -/
theorem along_append_of_error
    (hjump : ∀ ps loc cause, jump ps loc = .error cause → ∀ qs, jump (ps ++ qs) loc = .error cause)
    (ps : List (List Char)) (loc : Location) (cause : IoError)
    (h : d.along .find jump ps loc = .error cause) (qs : List (List Char)) :
    d.along .find jump (ps ++ qs) loc = .error cause := by
  induction ps generalizing loc with
  | nil => cases h
  | cons piece rest ih =>
    rw [along_find_cons] at h
    rw [List.cons_append, along_find_cons]
    rcases hhop : d.hop piece loc with cause | next | target
    · rw [hhop] at h
      exact h
    · rw [hhop] at h
      exact ih next h
    · rw [hhop] at h
      simp only [← List.append_assoc]
      exact hjump _ _ cause h qs

/-- So it is over any number of links. -/
theorem follow_append_of_error {links : Nat} {ps : List (List Char)} {loc : Location}
    {cause : IoError} (h : d.follow .find links ps loc = .error cause) (qs : List (List Char)) :
    d.follow .find links (ps ++ qs) loc = .error cause := by
  induction links generalizing ps loc cause qs with
  | zero =>
    rw [follow_zero] at h ⊢
    refine along_append_of_error ?_ ps loc cause h qs
    exact fun _ _ _ h _ => h
  | succ links ih =>
    rw [follow_succ] at h ⊢
    exact along_append_of_error (fun _ _ _ h qs => ih h qs) ps loc cause h qs

/-! ### What is there -/

/-- An entry is what is found at its location, because there is at most one at each. -/
theorem lookup?_of_mem {loc : Location} {entry : Entry} (h : (loc, entry) ∈ d.entries) :
    d.lookup? loc = some entry := by
  have hne : loc ≠ [] := (d.named _ h).1
  have hfound : (d.entries.find? fun e => e.1 = loc).isSome = true :=
    List.find?_isSome.2 ⟨_, h, decide_eq_true rfl⟩
  obtain ⟨e, he⟩ := Option.isSome_iff_exists.1 hfound
  have hloc := List.find?_some he
  rw [decide_eq_true_eq] at hloc
  -- two entries at one location are the same one
  have hentry : e = (loc, entry) :=
    List.inj_on_of_nodup_map d.nodup (List.mem_of_find?_eq_some he) h hloc
  rw [lookup?, if_neg hne, he, hentry]
  rfl

/-- What is above an entry is a directory. -/
theorem isDirectoryAt_tail_of_mem {loc : Location} {entry : Entry} (h : (loc, entry) ∈ d.entries) :
    d.isDirectoryAt loc.tail = true := by
  rcases d.rooted _ h with htop | hdir
  · rw [show loc.tail = [] from htop]
    exact decide_eq_true rfl
  · exact decide_eq_true (lookup?_of_mem hdir)

theorem isDirectoryAt_tail {loc : Location} (h : d.isDirectoryAt loc = true) :
    d.isDirectoryAt loc.tail = true := by
  rcases rooted_of_isDirectoryAt h with rfl | hmem
  · exact h
  · exact isDirectoryAt_tail_of_mem hmem

/-- What is anywhere above a directory is a directory. -/
theorem isDirectoryAt_above {loc above : Location} (h : d.isDirectoryAt loc = true)
    (habove : above <:+ loc) : d.isDirectoryAt above = true := by
  induction loc with
  | nil =>
    rw [List.suffix_nil.1 habove]
    exact h
  | cons name rest ih =>
    rcases List.suffix_cons_iff.1 habove with rfl | habove
    · exact h
    · exact ih (isDirectoryAt_tail h) habove

theorem all_isEntryName_of_isDirectoryAt {loc : Location} (h : d.isDirectoryAt loc = true) :
    loc.all isEntryName = true := by
  rcases rooted_of_isDirectoryAt h with rfl | hmem
  · rfl
  · exact (d.named _ hmem).2

/-- There is a file or a directory at the location. -/
def settledAt (d : Disk) (loc : Location) : Prop :=
  d.isDirectoryAt loc = true ∨ d.isFileAt loc = true

/-- Where a file is there is no directory. -/
theorem isDirectoryAt_of_isFileAt {loc : Location} (h : d.isFileAt loc = true) :
    d.isDirectoryAt loc = false := by
  obtain ⟨entry, hentry, hfile⟩ := isFileAt_iff.1 h
  rw [isDirectoryAt, hentry, decide_eq_false_iff_not]
  rintro ⟨⟩
  cases hfile

/-- What is there and is no link is a file or a directory. -/
theorem settledAt_of_plain {loc : Location} {entry : Entry} (h : d.lookup? loc = some entry)
    (hplain : ∀ target, entry ≠ .link target) : d.settledAt loc := by
  cases entry with
  | directory => exact .inl (decide_eq_true h)
  | file | unreadable => exact .inr (isFileAt_iff.2 ⟨_, h, rfl⟩)
  | link target => exact absurd rfl (hplain target)

/-- What a piece goes on to is there and is no link. -/
theorem settledAt_of_hop {piece : List Char} {loc next : Location} (h : d.hop piece loc = .go next) :
    d.settledAt next := by
  rw [hop] at h
  split at h
  · cases h
  · next hdir =>
    rw [Bool.not_eq_true', Bool.not_eq_false] at hdir
    -- the piece stays at a directory, goes up to one, or goes down to an entry that is no link
    split at h
    · exact .inl (Hop.go.inj h ▸ hdir)
    · split at h
      · exact .inl (Hop.go.inj h ▸ isDirectoryAt_tail hdir)
      · split at h
        · cases h
        · split at h
          · cases h
          · cases h
          · next entry hlink hentry =>
            obtain rfl := Hop.go.inj h
            exact settledAt_of_plain hentry hlink

/-- Pieces that lead somewhere lead to a file or a directory. -/
theorem along_settled
    (hjump : ∀ ps loc next, ps ≠ [] → jump ps loc = .ok next → d.settledAt next)
    (ps : List (List Char)) (loc next : Location) (hstart : ps = [] → d.settledAt loc)
    (h : d.along .find jump ps loc = .ok next) : d.settledAt next := by
  induction ps generalizing loc with
  | nil =>
    obtain rfl := Except.ok.inj h
    exact hstart rfl
  | cons piece rest ih =>
    rw [along_find_cons] at h
    rcases hhop : d.hop piece loc with cause | mid | target
    · simp [hhop] at h
    · rw [hhop] at h
      exact ih mid (fun _ => settledAt_of_hop hhop) h
    · rw [hhop] at h
      -- a target has a piece, be it an empty one
      refine hjump _ _ next ?_ h
      exact List.append_ne_nil_of_left_ne_nil (Text.splitOn_ne_nil _ _) rest

/-- So it is over any number of links, if there is a piece at all. -/
theorem follow_settled {links : Nat} {ps : List (List Char)} {loc next : Location} (hne : ps ≠ [])
    (h : d.follow .find links ps loc = .ok next) : d.settledAt next := by
  induction links generalizing ps loc next with
  | zero =>
    rw [follow_zero] at h
    refine along_settled ?_ ps loc next (fun h => absurd h hne) h
    exact fun _ _ _ _ h => nomatch h
  | succ links ih =>
    exact along_settled (fun _ _ _ hne h => ih hne h) ps loc next (fun h => absurd h hne) h

theorem resolve_find_eq_ok {p : Path} {loc : Location} (h : d.resolve .find p = .ok loc) :
    p.text ≠ "" ∧ d.follow .find linkLimit p.pieces (p.startFrom d.current) = .ok loc := by
  rw [resolve] at h
  split at h
  · cases h
  · next hne => exact ⟨hne, h⟩

/-- What a path leads to is a file or a directory. -/
theorem resolve_find_settled {p : Path} {loc : Location} (h : d.resolve .find p = .ok loc) :
    d.settledAt loc :=
  follow_settled (Text.splitOn_ne_nil _ _) (resolve_find_eq_ok h).2

/-! ### A name below a path -/

/-- An empty piece leads nowhere else. -/
theorem eq_of_follow_void {links : Nat} {loc next : Location}
    (h : d.follow .find links [[]] loc = .ok next) : loc = next := by
  have hvoid (jump : List (List Char) → Location → Except IoError Location)
      (h : d.along .find jump [[]] loc = .ok next) : loc = next := by
    rw [along_find_cons, hop] at h
    by_cases hdir : d.isDirectoryAt loc = true
    · rw [hdir] at h
      exact Except.ok.inj h
    · simp [hdir] at h
  -- the number of links does not matter, since no link is followed
  cases links with
  | zero => exact hvoid _ h
  | succ links => exact hvoid _ h

theorem resolve_child_eq_follow {p : Path} {name : List Char} (hne : p.text ≠ "")
    (hname : Path.IsPlainName name) :
    d.resolve .find (p.child (String.ofList name)) =
      d.follow .find linkLimit (p.child (String.ofList name)).pieces (p.startFrom d.current) := by
  have hchars : p.chars ≠ [] := fun h => hne (String.toList_eq_nil_iff.1 h)
  rw [resolve, if_neg (Path.text_child_ne_empty hne hname), Path.startFrom,
    Path.isAbsolute_child hchars hname]
  rfl

/-- A path below a directory is decided by the entry of its last name. -/
theorem resolve_child {p : Path} {loc : Location} {name : List Char}
    (h : d.resolve .find p = .ok loc) (hname : isEntryName name = true) :
    ∃ left, d.resolve .find (p.child (String.ofList name)) = d.follow .find left [name] loc := by
  obtain ⟨hne, hfollow⟩ := resolve_find_eq_ok h
  have hplain := Path.isPlainName_of_isEntryName hname
  rw [resolve_child_eq_follow hne hplain]
  obtain ⟨front, hchild, hbase | ⟨hbase, -⟩⟩ := Path.exists_pieces_child p hplain
  · -- the path ends in a slash, and what is before it leads to the same directory
    rw [hbase] at hfollow
    rw [hchild]
    rcases hfront : d.follow .find linkLimit front (p.startFrom d.current) with cause | mid
    · rw [follow_append_of_error hfront] at hfollow
      cases hfollow
    · obtain ⟨left, hleft⟩ := follow_append_of_ok hfront
      rw [hleft] at hfollow
      obtain rfl := eq_of_follow_void hfollow
      exact ⟨left, hleft [name]⟩
  · rw [hbase] at hfollow
    rw [hchild]
    obtain ⟨left, hleft⟩ := follow_append_of_ok hfollow
    exact ⟨left, hleft [name]⟩

section Child

variable {p : Path} {loc : Location} {name : List Char}

/-- A last piece that does not jump decides alone. -/
theorem follow_singleton {left : Nat} (hjump : ∀ target, d.hop name loc ≠ .jump target) :
    d.follow .find left [name] loc =
      match d.hop name loc with
      | .stop cause => .error cause
      | .go next => .ok next
      | .jump _ => .error .tooManyLinks := by
  have halong (jump : List (List Char) → Location → Except IoError Location) :
      d.along .find jump [name] loc =
        match d.hop name loc with
        | .stop cause => .error cause
        | .go next => .ok next
        | .jump _ => .error .tooManyLinks := by
    rw [along_find_cons]
    rcases hhop : d.hop name loc with cause | next | target
    · rfl
    · rfl
    · exact absurd hhop (hjump target)
  -- again no link is followed
  cases left with
  | zero => exact halong _
  | succ left => exact halong _

/-- A file or a directory below a directory is where its name says. -/
theorem resolve_child_of_plain {entry : Entry} (h : d.resolve .find p = .ok loc)
    (hdir : d.isDirectoryAt loc = true) (hname : isEntryName name = true)
    (hentry : d.lookup? (name :: loc) = some entry) (hplain : ∀ target, entry ≠ .link target) :
    d.resolve .find (p.child (String.ofList name)) = .ok (name :: loc) := by
  have hhop : d.hop name loc = .go (name :: loc) := by
    rw [hop_of_isEntryName hdir hname, hentry]
    cases entry with
    | link target => exact absurd rfl (hplain target)
    | _ => rfl
  obtain ⟨left, hleft⟩ := resolve_child h hname
  rw [hleft, follow_singleton (by simp [hhop]), hhop]

/-- Nothing is led to by a name that is not in the directory. -/
theorem resolve_child_of_none (h : d.resolve .find p = .ok loc)
    (hdir : d.isDirectoryAt loc = true) (hname : isEntryName name = true)
    (hnone : d.lookup? (name :: loc) = none) :
    d.resolve .find (p.child (String.ofList name)) = .error .notFound := by
  have hhop : d.hop name loc = .stop .notFound := by
    rw [hop_of_isEntryName hdir hname, hnone]
  obtain ⟨left, hleft⟩ := resolve_child h hname
  rw [hleft, follow_singleton (by simp [hhop]), hhop]

end Child

/-! ### Files, directories and names -/

/-- What is found on a path is the entry of the location that it leads to. -/
theorem look_of_ok {p : Path} {loc : Location} (h : d.resolve .find p = .ok loc) :
    d.look p = (d.lookup? loc).elim (.error .notFound) .ok := by
  rcases hentry : d.lookup? loc with - | entry
  · simp only [look, h, bind, Except.bind, hentry]
    rfl
  · simp only [look, h, bind, Except.bind, hentry]
    rfl

theorem look_of_error {p : Path} {cause : IoError} (h : d.resolve .find p = .error cause) :
    d.look p = .error cause := by
  rw [look, h]
  rfl

/-- A file that cannot be read gives its cause. -/
theorem read_of_unreadable {p : Path} {loc : Location} {cause : IoError}
    (h : d.resolve .find p = .ok loc) (hfile : d.lookup? loc = some (.unreadable cause)) :
    d.read p = .error cause := by
  rw [read, look_of_ok h, hfile]
  rfl

theorem read_of_file {p : Path} {loc : Location} {bytes : List UInt8}
    (h : d.resolve .find p = .ok loc) (hfile : d.lookup? loc = some (.file bytes)) :
    d.read p = .ok bytes := by
  rw [read, look_of_ok h, hfile]
  rfl

/-- The text of a file that can be read is what its bytes are decoded to. -/
theorem readText_of_read {p : Path} {bytes : List UInt8} (h : d.read p = .ok bytes) :
    d.readText p =
      match Text.decode? bytes with
      | some text => .ok text
      | none => .error .invalidUtf8 := by
  rw [readText, h]
  rfl

/-- A path is that of a file if it leads to where a file is. -/
theorem isFile_iff {p : Path} :
    d.isFile p = true ↔ ∃ loc, d.resolve .find p = .ok loc ∧ d.isFileAt loc = true := by
  rw [isFile]
  rcases h : d.resolve .find p with cause | loc
  · simp [look_of_error h]
  · rw [look_of_ok h]
    rcases hentry : d.lookup? loc with - | entry <;> simp [isFileAt, hentry]

/-- A path is that of a directory if it leads to where a directory is. -/
theorem isDirectory_iff {p : Path} :
    d.isDirectory p = true ↔
      ∃ loc, d.resolve .find p = .ok loc ∧ d.isDirectoryAt loc = true := by
  rw [isDirectory]
  rcases h : d.resolve .find p with cause | loc
  · simp [look_of_error h]
  · rw [look_of_ok h]
    rcases hentry : d.lookup? loc with - | entry
    · simp [isDirectoryAt, hentry]
    · cases entry <;> simp [isDirectoryAt, hentry]

theorem nameBelow?_eq_some_iff {dir loc : Location} {name : List Char} :
    nameBelow? dir loc = some name ↔ loc = name :: dir := by
  cases loc with
  | nil => simp [nameBelow?]
  | cons first above =>
    by_cases habove : above = dir <;> simp [nameBelow?, habove]

/-- The names in a directory are those at which there is an entry. -/
theorem mem_names {loc : Location} {name : List Char} :
    name ∈ d.names loc ↔ ∃ entry, d.lookup? (name :: loc) = some entry := by
  rw [names, List.mem_filterMap]
  constructor
  · rintro ⟨e, he, hname⟩
    rw [nameBelow?_eq_some_iff] at hname
    refine ⟨e.2, lookup?_of_mem ?_⟩
    rw [← hname]
    exact he
  · rintro ⟨entry, hentry⟩
    exact ⟨_, mem_of_lookup? (List.cons_ne_nil _ _) hentry, nameBelow?_eq_some_iff.2 rfl⟩

/-- A directory lists every name once. -/
theorem nodup_names (d : Disk) (loc : Location) : (d.names loc).Nodup := by
  have hmap : d.names loc = (d.entries.map Prod.fst).filterMap (nameBelow? loc) := by
    rw [List.filterMap_map]
    rfl
  rw [hmap]
  apply d.nodup.filterMap
  intro a b name ha hb
  rw [Option.mem_def, nameBelow?_eq_some_iff] at ha hb
  rw [ha, hb]

/-- What a directory lists can be looked up by name. -/
theorem isEntryName_of_mem_names {loc : Location} {name : List Char} (h : name ∈ d.names loc) :
    isEntryName name = true := by
  obtain ⟨entry, hentry⟩ := mem_names.1 h
  have hall := (d.named _ (mem_of_lookup? (List.cons_ne_nil _ _) hentry)).2
  exact (List.all_eq_true.1 hall) name List.mem_cons_self

end QualityGate.Disk
