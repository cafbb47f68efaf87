/-
Paths as they are shown.

Something remains of an absolute path below another one exactly if the components of the other one are
its first (`exists_relativeTo?_iff`).  A name that only starts like another name is another component,
so nothing is taken away from a path next to the project.

What a path taken from a base names depends only on what the path itself names (`components_join_eq`).
So paths that are shown alike name the same steps: taken from the project, what is shown names the steps
of the path (`shown_paths_tell_files_apart`).
-/
import QualityGate.Proofs.Check.Independence

namespace QualityGate

namespace Path

variable {p base other : Path}

/-! ### Where something remains -/

theorem exists_dropPieces_iff {cs : List Component} {pieces : List (List Char)} :
    (∃ rest, dropPieces cs pieces = some rest) ↔ cs <+: pieces.filterMap componentOf? := by
  constructor
  · rintro ⟨rest, hrest⟩
    rw [(filterMap_of_dropPieces hrest).1]
    exact List.prefix_append _ _
  · intro h
    induction pieces generalizing cs with
    | nil =>
      obtain rfl := List.prefix_nil.1 h
      exact ⟨[], rfl⟩
    | cons piece more ih =>
      cases cs with
      | nil => exact ⟨piece :: more, rfl⟩
      | cons c cs =>
        rw [dropPieces]
        -- a void piece is passed over, any other one is the component that is next
        rcases hpiece : componentOf? piece with - | component
        · rw [List.filterMap_cons_none hpiece] at h
          exact ih h
        · rw [List.filterMap_cons_some hpiece, List.cons_prefix_cons] at h
          obtain ⟨rfl, h⟩ := h
          simp only [if_true]
          exact ih h

/-- Something remains of an absolute path exactly below those whose components are its first. -/
theorem exists_relativeTo?_iff (hbase : base.isAbsolute = true) (hp : p.isAbsolute = true) :
    (∃ rest, p.relativeTo? base = some rest) ↔ base.components <+: p.components := by
  obtain ⟨bs, hbs, hbase'⟩ := isAbsolute_iff_pieces.1 hbase
  obtain ⟨ps, hps, hp'⟩ := isAbsolute_iff_pieces.1 hp
  -- both start at the root, so the pieces behind it decide
  simp only [relativeTo?, components_of_pieces hbs hbase', components_of_pieces hps hp',
    lead_eq_root hps hp', Lead.component?, if_true, body_eq hps hp', List.cons_prefix_cons, true_and,
    ← exists_dropPieces_iff, Option.map_eq_some_iff]
  constructor
  · rintro ⟨-, left, hleft, -⟩
    exact ⟨left, hleft⟩
  · rintro ⟨left, hleft⟩
    exact ⟨_, left, hleft, rfl⟩

/-! ### What a joined path names -/

theorem ne_of_componentOf? {piece : List Char} {c : Component} (h : componentOf? piece = some c) :
    c ≠ .root ∧ c ≠ .current := by
  rw [componentOf?] at h
  split at h
  · cases h
  · split at h
    · obtain rfl := Option.some.inj h
      simp
    · obtain rfl := Option.some.inj h
      simp

/-- Only a start that is no piece of its own names the root or the current directory. -/
theorem ne_of_mem_filterMap {pieces : List (List Char)} {c : Component}
    (h : c ∈ pieces.filterMap componentOf?) : c ≠ .root ∧ c ≠ .current := by
  obtain ⟨piece, -, hpiece⟩ := List.mem_filterMap.1 h
  exact ne_of_componentOf? hpiece

theorem isAbsolute_iff_root_mem : p.isAbsolute = true ↔ .root ∈ p.components := by
  constructor
  · intro h
    obtain ⟨rest, hne, hpieces⟩ := isAbsolute_iff_pieces.1 h
    rw [components_of_pieces hne hpieces]
    exact List.mem_cons_self
  · intro h
    -- only an empty first piece, with another behind it, gives the root
    rw [components_eq, componentsOf.eq_def] at h
    split at h
    · next next rest hpieces =>
      exact isAbsolute_iff_pieces.2 ⟨next :: rest, List.cons_ne_nil _ _, hpieces⟩
    · rcases List.mem_cons.1 h with h | h
      · cases h
      · exact absurd rfl (ne_of_mem_filterMap h).1
    · exact absurd rfl (ne_of_mem_filterMap h).1

/-- The pieces of a path that is not absolute name its components, but for a leading `.`. -/
theorem filterMap_pieces (h : p.isAbsolute = false) :
    p.pieces.filterMap componentOf? = p.components.filter (· ≠ .current) := by
  -- a piece never gives the component for here: only a leading dot does
  have hself (pieces : List (List Char)) :
      (pieces.filterMap componentOf?).filter (· ≠ .current) = pieces.filterMap componentOf? := by
    apply List.filter_eq_self.2
    intro c hc
    exact decide_eq_true (ne_of_mem_filterMap hc).2
  rw [components_eq, componentsOf.eq_def]
  split
  · next next rest hpieces =>
    rw [isAbsolute_iff_pieces.2 ⟨next :: rest, List.cons_ne_nil _ _, hpieces⟩] at h
    cases h
  · next rest hpieces =>
    rw [hpieces, List.filterMap_cons_none (componentOf?_of_isVoid rfl),
      List.filter_cons_of_neg (by simp), hself]
  · exact (hself _).symm

/-- What a path taken from an absolute base names is decided by what the path names. -/
theorem components_join_eq (hbase : base.isAbsolute = true) (other : Path) :
    (base.join other).components =
      if .root ∈ other.components then other.components
      else base.components ++ other.components.filter (· ≠ .current) := by
  split
  · next h => rw [join_of_isAbsolute base (isAbsolute_iff_root_mem.2 h)]
  · next h =>
    have hrelative : other.isAbsolute = false := by
      rw [← Bool.not_eq_true, isAbsolute_iff_root_mem]
      exact h
    rw [components_join hbase hrelative, filterMap_pieces hrelative]

/-- A name is no beginning of another name, as components go. -/
theorem not_prefix_of_longer_name {above : List Component} {name more : List Char}
    {rest : List Component} (hmore : more ≠ []) :
    ¬ above ++ [.normal name] <+: above ++ .normal (name ++ more) :: rest := by
  rw [List.prefix_append_right_inj, List.cons_prefix_cons]
  rintro ⟨heq, -⟩
  have hname := Component.normal.inj heq
  exact hmore (List.self_eq_append_right.1 hname)

end Path

namespace Context

variable {ctx : Context} {p : Path}

theorem shown_of_relativeTo? {rest : Path} (h : p.relativeTo? ctx.project = some rest) :
    ctx.shown p = rest := by
  rw [shown, h, Option.getD_some]

theorem shown_eq_self (h : p.relativeTo? ctx.project = none) : ctx.shown p = p := by
  rw [shown, h, Option.getD_none]

/-- A path is shown relative exactly if the components of the project are its first; any other one is
shown as it is. -/
theorem shown_cases (hproject : ctx.project.isAbsolute = true) (hp : p.isAbsolute = true) :
    (ctx.project.components <+: p.components ∧ (ctx.shown p).isAbsolute = false) ∨
      (¬ ctx.project.components <+: p.components ∧ ctx.shown p = p) := by
  rw [← Path.exists_relativeTo?_iff hproject hp]
  rcases hrest : p.relativeTo? ctx.project with - | rest
  · right
    exact ⟨by simp, shown_eq_self hrest⟩
  · left
    refine ⟨⟨rest, rfl⟩, ?_⟩
    rw [shown_of_relativeTo? hrest]
    exact (Path.steps_of_relativeTo? hproject hp hrest).1

/-- Paths that are shown alike name the same steps. -/
theorem same_of_shown {q : Path} (hproject : ctx.project.isAbsolute = true) (hp : p.isAbsolute = true)
    (hq : q.isAbsolute = true) (h : (ctx.shown p).same (ctx.shown q) = true) : p.same q = true := by
  rw [Path.same_iff] at h ⊢
  rw [← components_join_shown hproject hp, ← components_join_shown hproject hq,
    Path.components_join_eq hproject, Path.components_join_eq hproject, h]

/-- For a project and files with absolute paths: what is shown of a path, taken from the project, names
the steps of the path.  It is relative exactly if the components of the project are the first of the
path.  So files whose paths are shown alike have paths that name the same steps, and a path that goes
through a name which only starts with the project's name is shown as it is. -/
theorem shown_paths_tell_files_apart (ctx : Context) (hproject : ctx.project.isAbsolute = true) :
    ∀ p : Path, p.isAbsolute = true →
      (ctx.project.join (ctx.shown p)).same p = true ∧
      ((ctx.shown p).isAbsolute = false ↔ ctx.project.components <+: p.components) ∧
      (∀ q : Path, q.isAbsolute = true → (ctx.shown p).same (ctx.shown q) = true → p.same q = true) ∧
      (∀ above name more rest, ctx.project.components = above ++ [.normal name] →
        p.components = above ++ .normal (name ++ more) :: rest → more ≠ [] → ctx.shown p = p) := by
  intro p hp
  refine ⟨?_, ?_, ?_, ?_⟩
  · exact Path.same_iff.2 (components_join_shown hproject hp)
  · rcases shown_cases hproject hp with ⟨hfirst, hrelative⟩ | ⟨hfirst, hself⟩
    · exact iff_of_true hrelative hfirst
    · apply iff_of_false _ hfirst
      rw [hself, hp]
      exact nofun
  · intro q hq
    exact same_of_shown hproject hp hq
  · intro above name more rest hproject' hp' hmore
    -- a longer name is no component of the project, so nothing is stripped
    rcases shown_cases hproject hp with ⟨hfirst, -⟩ | ⟨-, hself⟩
    · rw [hproject', hp'] at hfirst
      exact absurd hfirst (Path.not_prefix_of_longer_name hmore)
    · exact hself

/-- A directory beside the project whose name starts like the project's is shown with its whole path,
however its path is spelled. -/
theorem shown_beside_longer_name :
    let ctx : Context := ⟨⟨"/w/app/"⟩, [], .standard, Disk.empty⟩
    (ctx.project.isAbsolute = true ∧ (⟨"/w//./app-old/../x.py"⟩ : Path).isAbsolute = true ∧
      ctx.project.components = [.root, .normal "w".toList] ++ [.normal "app".toList] ∧
      (⟨"/w//./app-old/../x.py"⟩ : Path).components = [.root, .normal "w".toList] ++
        .normal ("app".toList ++ "-old".toList) :: [.parent, .normal "x.py".toList] ∧
      "-old".toList ≠ []) ∧
    ctx.shown ⟨"/w//./app-old/../x.py"⟩ = ⟨"/w//./app-old/../x.py"⟩ := by
  intro ctx
  have hproject : ctx.project.isAbsolute = true := by decide
  have hp : (⟨"/w//./app-old/../x.py"⟩ : Path).isAbsolute = true := by decide
  have hsteps : ctx.project.components = [.root, .normal "w".toList] ++ [.normal "app".toList] := by
    decide
  have hpath : (⟨"/w//./app-old/../x.py"⟩ : Path).components = [.root, .normal "w".toList] ++
      .normal ("app".toList ++ "-old".toList) :: [.parent, .normal "x.py".toList] := by
    decide
  have hmore : "-old".toList ≠ [] := by decide
  obtain ⟨-, -, -, hbeside⟩ := shown_paths_tell_files_apart ctx hproject _ hp
  exact ⟨⟨hproject, hp, hsteps, hpath, hmore⟩, hbeside _ _ _ _ hsteps hpath hmore⟩

end Context

end QualityGate
