import TypedTables.Effect.Traced

/-!
# Deferred results

A deferred result is what awaiting it will bring: the events on the way, when they happen, when
it is finished and how it ends. Work that waits together proceeds in rounds, each piece of a
round in the order in which the round before asked for it. A moment is therefore the list of
positions that leads to it: pieces of work asked for at a moment are numbered, and every number
adds one position. A shorter list is an earlier round, and within a round the order is
lexicographic.
-/

namespace TypedTables

abbrev Moment := List Nat

namespace Moment

/-- Lexicographic order of moments of one round. -/
def before : Moment → Moment → Bool
  | [], [] => false
  | [], _ :: _ => true
  | _ :: _, [] => false
  | first :: rest, other :: others => first < other || (first == other && before rest others)

/-- An earlier round, or the same round and an earlier place in it. -/
def earlier (left right : Moment) : Bool :=
  left.length < right.length || (left.length == right.length && before left right)

end Moment

/-- What awaiting brings; moments are relative to the moment at which awaiting begins. -/
structure Deferred (α : Type) where
  events : List (Moment × Event)
  finish : Moment
  outcome : Except Fault α

namespace Deferred

variable {α β : Type}

def now (outcome : Except Fault α) : Deferred α := ⟨[], [], outcome⟩

/-- The events of a deferred result that begins at a later moment. -/
def eventsFrom (start : Moment) (deferred : Deferred α) : List (Moment × Event) :=
  deferred.events.map fun (moment, event) => (start ++ moment, event)

/-- A computation that runs when a result is there, in the same piece of work. -/
def map (deferred : Deferred α) (next : α → Traced β) : Deferred β :=
  match deferred.outcome with
  | .error cause => ⟨deferred.events, deferred.finish, .error cause⟩
  | .ok value =>
      let continued := next value
      ⟨deferred.events ++ continued.events.map (deferred.finish, ·), deferred.finish,
        continued.outcome⟩

/-- Puts one more piece of waiting behind a deferred result. -/
def join (deferred : Deferred (Deferred α)) : Deferred α :=
  match deferred.outcome with
  | .error cause => ⟨deferred.events, deferred.finish, .error cause⟩
  | .ok inner =>
      ⟨deferred.events ++ inner.eventsFrom deferred.finish, deferred.finish ++ inner.finish,
        inner.outcome⟩

/-- When something that waits for several results goes on: two rounds after the last of them, or
after the first fault, and what it then finds. -/
structure Verdict (α : Type) where
  moment : Moment
  outcome : Except Fault α

/-- Joins the verdicts of the first of several results and of the others: the earliest fault
wins, and without one the latest moment counts. -/
def Verdict.both (first : Verdict α) (others : Verdict (List α)) : Verdict (List α) :=
  match first.outcome, others.outcome with
  | .ok value, .ok values =>
      ⟨if first.moment.earlier others.moment then others.moment else first.moment,
        .ok (value :: values)⟩
  | .error cause, .ok _ => ⟨first.moment, .error cause⟩
  | .ok _, .error cause => ⟨others.moment, .error cause⟩
  | .error cause, .error otherCause =>
      if others.moment.earlier first.moment then ⟨others.moment, .error otherCause⟩
      else ⟨first.moment, .error cause⟩

/-- The verdict on results that begin as the pieces of work numbered from `place`. -/
def verdict : Nat → List (Deferred α) → Verdict (List α)
  | _, [] => ⟨[], .ok []⟩
  | place, deferred :: rest =>
      Verdict.both ⟨place :: deferred.finish ++ [0], deferred.outcome⟩ (verdict (place + 1) rest)

/-- The events of results that begin as the pieces of work numbered from `place`. -/
def allEvents : Nat → List (Deferred α) → List (Moment × Event)
  | _, [] => []
  | place, deferred :: rest =>
      (deferred.eventsFrom [place]).map (Prod.map id Event.delayed) ++ allEvents (place + 1) rest

/-- Waits for several results together; they come in the order in which they were asked for. -/
def all (pieces : List (Deferred α)) : Deferred (List α) :=
  let decided := verdict 0 pieces
  ⟨allEvents 0 pieces, decided.moment ++ [0], decided.outcome⟩

def inOrder (events : List (Moment × Event)) : List (Moment × Event) :=
  events.mergeSort fun left right => !right.1.earlier left.1

/-- The events an observer sees in order, when nothing begins after the round that follows the
end. -/
def seenEvents (deferred : Deferred α) : List Event :=
  (inOrder (deferred.events.filter fun (moment, _) =>
    moment.length ≤ deferred.finish.length + 1)).map Prod.snd

/-! ## Awaiting once

An awaitable value can be awaited once. Awaiting it again is a fault, which ends the piece of work
that it happens in; what that piece would have gone on to do does not happen.
-/

/-- The awaitable values that are awaited on the way, each as often as it is. -/
def awaits (deferred : Deferred α) : List Nat :=
  deferred.events.filterMap fun event => event.2.awaited?

/-- Events in order while some awaitable values are spent and some pieces of work have ended: those
that happen, and when each fault of awaiting again comes out. -/
def spend (spent : List Nat) (ended : List Moment) :
    List (Moment × Event) → List (Moment × Event) × List Moment
  | [] => ([], [])
  | (moment, event) :: rest =>
      if ended.any (·.isPrefixOf moment) then spend spent ended rest
      else
        match event with
        | .awaited token lag =>
            if spent.contains token then
              let (kept, faults) := spend spent (moment :: ended) rest
              (kept, (moment ++ List.replicate lag 0) :: faults)
            else
              let (kept, faults) := spend (token :: spent) ended rest
              ((moment, event) :: kept, faults)
        | _ =>
            let (kept, faults) := spend spent ended rest
            ((moment, event) :: kept, faults)

def earliest (first : Moment) (others : List Moment) : Moment :=
  others.foldl (fun best moment => if moment.earlier best then moment else best) first

/-- A deferred result as it comes when no awaitable value can be awaited twice: the fault of awaiting
again ends it, unless it ends in another fault before. -/
def once (deferred : Deferred α) : Deferred α :=
  match spend [] [] (inOrder deferred.events) with
  | (_, []) => deferred
  | (events, fault :: others) =>
      let finish := earliest fault others
      match deferred.outcome with
      | .ok _ => ⟨events, finish, .error .awaitedTwice⟩
      | .error cause =>
          if finish.earlier deferred.finish then ⟨events, finish, .error .awaitedTwice⟩
          else ⟨events, deferred.finish, .error cause⟩

end Deferred

/-- A result that is there, or one to be awaited. -/
inductive Progress (α : Type) where
  | ready (value : α)
  | pending (deferred : Deferred α)

namespace Progress

variable {α β : Type}

def isPending : Progress α → Bool
  | .ready _ => false
  | .pending _ => true

def toDeferred : Progress α → Deferred α
  | .ready value => .now (.ok value)
  | .pending deferred => deferred

/-- Goes on with a result at once when it is there, else when it has been awaited; what is then
to be awaited itself is awaited in the same piece of work. -/
def andThen (progress : Progress α) (next : α → Traced (Progress β)) : Traced (Progress β) :=
  match progress with
  | .ready value => next value
  | .pending deferred =>
      .result (.pending (deferred.map fun value =>
        (next value).andThen fun continued => .result continued.toDeferred).join)

end Progress
end TypedTables
