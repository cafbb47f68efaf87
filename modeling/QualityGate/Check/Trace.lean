/-
What a run does besides giving its result: it calls tools and writes to its log.

Events stand in the order in which they happen.  A computation that goes on with the value of another
one has the events of both, one after the other.
-/
import QualityGate.Tooling.Tool

namespace QualityGate

/-- Something that a run does besides giving its result. -/
inductive Event where
  | call (call : ToolCall)
  | info (text : String)
  | warning (text : String)

namespace Event

/-- The call of a tool. -/
def call? : Event → Option ToolCall
  | .call c => some c
  | _ => none

/-- The line in the log. -/
def line? : Event → Option String
  | .call _ => none
  | .info text => some ("INFO " ++ text)
  | .warning text => some ("WARN " ++ text)

end Event

/-- A value, and what was done on the way to it. -/
structure Traced (α : Type) where
  events : List Event
  value : α

namespace Traced

variable {α β : Type}

/-- A value without events. -/
def pure (a : α) : Traced α :=
  ⟨[], a⟩

/-- Goes on with the value. -/
def bind (t : Traced α) (f : α → Traced β) : Traced β :=
  ⟨t.events ++ (f t.value).events, (f t.value).value⟩

instance : Monad Traced where
  pure := Traced.pure
  bind := Traced.bind

/-- The event alone. -/
def tell (e : Event) : Traced Unit :=
  ⟨[e], ()⟩

/-- Warnings alone. -/
def warn (texts : List String) : Traced Unit :=
  ⟨texts.map Event.warning, ()⟩

/-- The tool calls. -/
def calls (t : Traced α) : List ToolCall :=
  t.events.filterMap Event.call?

/-- The lines of the log. -/
def log (t : Traced α) : List String :=
  t.events.filterMap Event.line?

/-! ### Basic lemmas -/

@[simp] theorem events_bind (t : Traced α) (f : α → Traced β) :
    (t >>= f).events = t.events ++ (f t.value).events := rfl

@[simp] theorem value_bind (t : Traced α) (f : α → Traced β) :
    (t >>= f).value = (f t.value).value := rfl

theorem calls_bind (t : Traced α) (f : α → Traced β) :
    (t >>= f).calls = t.calls ++ (f t.value).calls := by
  rw [calls, events_bind, List.filterMap_append]
  rfl

theorem calls_warn (texts : List String) : (warn texts).calls = [] := by
  rw [calls, List.filterMap_eq_nil_iff]
  intro e he
  obtain ⟨text, _, rfl⟩ := List.mem_map.1 he
  rfl

end Traced

end QualityGate
