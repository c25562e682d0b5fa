import TypedTables.Effect.Event
import TypedTables.Fault

/-!
# Traced computations

A traced computation ends in a result or a fault, and keeps the events that happened on the way,
also when it ends in a fault. One after another, their events follow each other.
-/

namespace TypedTables

/-- A computation that has run: its events in order and how it ended. -/
structure Traced (α : Type) where
  events : List Event
  outcome : Except Fault α

namespace Traced

variable {α β γ : Type}

def result (value : α) : Traced α := ⟨[], .ok value⟩

def fault (cause : Fault) : Traced α := ⟨[], .error cause⟩

def ofExcept (outcome : Except Fault α) : Traced α := ⟨[], outcome⟩

def emit (event : Event) : Traced Unit := ⟨[event], .ok ()⟩

/-- One computation, and then what depends on its result. -/
def andThen (first : Traced α) (next : α → Traced β) : Traced β :=
  match first.outcome with
  | .ok value => ⟨first.events ++ (next value).events, (next value).outcome⟩
  | .error cause => ⟨first.events, .error cause⟩

instance : Monad Traced where
  pure := result
  bind := andThen

@[simp] theorem pure_eq (value : α) : (pure value : Traced α) = ⟨[], .ok value⟩ := rfl

@[simp] theorem bind_eq (first : Traced α) (next : α → Traced β) :
    first >>= next = first.andThen next := rfl

@[simp] theorem andThen_ok (events : List Event) (value : α) (next : α → Traced β) :
    (⟨events, .ok value⟩ : Traced α).andThen next =
      ⟨events ++ (next value).events, (next value).outcome⟩ := rfl

@[simp] theorem andThen_error (events : List Event) (cause : Fault) (next : α → Traced β) :
    (⟨events, .error cause⟩ : Traced α).andThen next = ⟨events, .error cause⟩ := rfl

theorem andThen_assoc (first : Traced α) (second : α → Traced β) (third : β → Traced γ) :
    (first.andThen second).andThen third =
      first.andThen fun value => (second value).andThen third := by
  rcases first with ⟨events, outcome⟩
  cases outcome with
  | error cause => rfl
  | ok value =>
      rcases equal : second value with ⟨moreEvents, secondOutcome⟩
      cases secondOutcome <;> simp [equal, List.append_assoc]

/-- Runs a computation for every item in order; the first fault ends it. -/
def forEach (items : List α) (action : α → Traced β) : Traced (List β) :=
  match items with
  | [] => result []
  | item :: rest =>
      (action item).andThen fun first =>
        (forEach rest action).andThen fun others => result (first :: others)

end Traced
end TypedTables
