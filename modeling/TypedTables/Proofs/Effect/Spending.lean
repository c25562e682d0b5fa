import TypedTables.Proofs.Effect.Settling

/-!
# Awaiting every value once

A computation settles as if each awaitable value brought its outcome to all that await it. It comes to
an end of that kind only where no awaitable value is awaited twice: a second awaiting is a fault, and
the only one that awaiting once adds.
-/

namespace TypedTables

variable {α β : Type}

/-- The awaitable values that events await. -/
def awaitedBy (events : List (Moment × Event)) : List Nat :=
  events.filterMap fun event => event.2.awaited?

@[simp] theorem awaitedBy_nil : awaitedBy [] = [] := rfl

@[simp] theorem awaitedBy_append (first second : List (Moment × Event)) :
    awaitedBy (first ++ second) = awaitedBy first ++ awaitedBy second :=
  List.filterMap_append

namespace Deferred

theorem awaits_eq (deferred : Deferred α) : deferred.awaits = awaitedBy deferred.events := rfl

@[simp] theorem awaits_now (outcome : Except Fault α) : (Deferred.now outcome).awaits = [] := rfl

/-- Moments make no difference to what is awaited, and neither does how late a fault comes out. -/
theorem awaitedBy_allEvents (place : Nat) (pieces : List (Deferred α)) :
    awaitedBy (allEvents place pieces) = pieces.flatMap awaits := by
  induction pieces generalizing place with
  | nil => rfl
  | cons piece rest ih =>
      have first : awaitedBy ((piece.eventsFrom [place]).map (Prod.map id Event.delayed)) =
          piece.awaits := by
        simp only [awaitedBy, eventsFrom, List.filterMap_map, Function.comp_def, Prod.map,
          Event.awaited?_delayed, awaits]
      rw [allEvents, awaitedBy_append, first, ih, List.flatMap_cons]

theorem awaits_all (pieces : List (Deferred α)) : (all pieces).awaits = pieces.flatMap awaits :=
  awaitedBy_allEvents 0 pieces

theorem awaits_map_silent (deferred : Deferred α) (next : α → Except Fault β) :
    (deferred.map fun value => .ofExcept (next value)).awaits = deferred.awaits := by
  unfold map
  cases deferred.outcome with
  | error cause => rfl
  | ok value => simp [awaits_eq, Traced.ofExcept]

theorem awaitedBy_inOrder (events : List (Moment × Event)) :
    (awaitedBy (inOrder events)).Perm (awaitedBy events) :=
  (List.mergeSort_perm _ _).filterMap _

/-- No fault of awaiting again comes out just when no value is awaited again. The induction is on the
events; before the first fault no piece of work has ended. -/
theorem faults_spend_eq_nil_iff (spent : List Nat) (events : List (Moment × Event)) :
    (spend spent [] events).2 = [] ↔
      (awaitedBy events).Nodup ∧ ∀ token ∈ awaitedBy events, token ∉ spent := by
  induction events generalizing spent with
  | nil => simp [spend]
  | cons head rest ih =>
      obtain ⟨moment, event⟩ := head
      cases event with
      | awaited token lag =>
          have awaited : awaitedBy ((moment, .awaited token lag) :: rest) =
              token :: awaitedBy rest := rfl
          rw [awaited, spend]
          by_cases again : token ∈ spent
          · simp [again]
          · simp only [List.any_nil, Bool.false_eq_true, if_false, List.contains_eq_mem, again,
              decide_false, ih, List.nodup_cons, List.mem_cons, forall_eq_or_imp, not_or]
            constructor
            · rintro ⟨nodup, others⟩
              exact ⟨⟨fun member => (others token member).1 rfl, nodup⟩, not_false,
                fun other member => (others other member).2⟩
            · rintro ⟨⟨fresh, nodup⟩, -, others⟩
              exact ⟨nodup, fun other member => ⟨fun same => fresh (same ▸ member),
                others other member⟩⟩
      | _ => exact ih spent

theorem once_of_nodup {deferred : Deferred α} (nodup : deferred.awaits.Nodup) :
    deferred.once = deferred := by
  have none : (spend [] [] (inOrder deferred.events)).2 = [] :=
    (faults_spend_eq_nil_iff _ _).mpr
      ⟨(awaitedBy_inOrder deferred.events).nodup_iff.mpr nodup, by simp⟩
  rcases spending : spend [] [] (inOrder deferred.events) with ⟨events, faults⟩
  rw [spending] at none
  simp only at none
  rw [once, spending, none]

theorem exists_outcome_once_eq_error {deferred : Deferred α} (again : ¬deferred.awaits.Nodup) :
    ∃ cause, deferred.once.outcome = .error cause := by
  rcases spending : spend [] [] (inOrder deferred.events) with ⟨events, _ | ⟨fault, others⟩⟩
  · have nodup := ((faults_spend_eq_nil_iff _ _).mp (congrArg Prod.snd spending)).1
    exact absurd ((awaitedBy_inOrder deferred.events).nodup_iff.mp nodup) again
  · rw [once, spending]
    cases deferred.outcome with
    | ok value => exact ⟨_, rfl⟩
    | error cause =>
        dsimp only
        split <;> exact ⟨_, rfl⟩

/-- Awaiting once brings a value just when awaiting does, and nothing is awaited again. -/
theorem outcome_once_eq_ok_iff (deferred : Deferred α) (value : α) :
    deferred.once.outcome = .ok value ↔ deferred.outcome = .ok value ∧ deferred.awaits.Nodup := by
  by_cases nodup : deferred.awaits.Nodup
  · rw [once_of_nodup nodup, and_iff_left nodup]
  · obtain ⟨cause, fails⟩ := exists_outcome_once_eq_error nodup
    rw [fails]
    exact iff_of_false nofun fun both => nodup both.2

end Deferred

namespace Progress

/-- The awaitable values that are awaited for a result. -/
def awaits : Progress α → List Nat
  | .ready _ => []
  | .pending deferred => deferred.awaits

/-- What a result that is there, or awaited, comes to when no value can be awaited twice. -/
def concluded : Progress α → Except Fault α
  | .ready value => .ok value
  | .pending deferred => deferred.once.outcome

theorem concluded_eq_ok_iff (progress : Progress α) (value : α) :
    progress.concluded = .ok value ↔ progress.settled = .ok value ∧ progress.awaits.Nodup := by
  cases progress with
  | ready answer => simp [concluded, awaits]
  | pending deferred => exact deferred.outcome_once_eq_ok_iff value

end Progress

namespace Traced

/-- The awaitable values that a computation awaits for its result. -/
def awaits (computation : Traced (Progress α)) : List Nat :=
  match computation.outcome with
  | .ok progress => progress.awaits
  | .error _ => []

/-- What a computation comes to when no awaitable value can be awaited twice. -/
def concluded (computation : Traced (Progress α)) : Except Fault α :=
  computation.outcome.bind Progress.concluded

theorem concluded_eq_ok_iff (computation : Traced (Progress α)) (value : α) :
    computation.concluded = .ok value ↔
      computation.settled = .ok value ∧ computation.awaits.Nodup := by
  unfold concluded settled awaits
  cases computation.outcome with
  | error cause => simp [Except.bind]
  | ok progress => exact progress.concluded_eq_ok_iff value

theorem concluded_of_settled {computation : Traced (Progress α)} {value : α}
    (settles : computation.settled = .ok value) (nodup : computation.awaits.Nodup) :
    computation.concluded = .ok value :=
  (concluded_eq_ok_iff computation value).mpr ⟨settles, nodup⟩

theorem settled_of_concluded {computation : Traced (Progress α)} {value : α}
    (concludes : computation.concluded = .ok value) : computation.settled = .ok value :=
  ((concluded_eq_ok_iff computation value).mp concludes).1

end Traced
end TypedTables
