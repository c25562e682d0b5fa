import TypedTables.Proofs.Effect.Spending
import TypedTables.Validation.Joining

/-!
# Joined parts

Parts are run in order and joined in order. When every part is there at once, joining is
assembling; when some parts are awaited, joining settles to what assembling makes of the settled
parts, each in its own entry.
-/

namespace TypedTables

theorem Traced.outcome_forEach {α β : Type} (items : List α) (action : α → Traced β) :
    (Traced.forEach items action).outcome = items.mapM fun item => (action item).outcome := by
  induction items with
  | nil => rfl
  | cons item rest ih =>
      rw [Traced.forEach, Traced.outcome_andThen, List.mapM_cons]
      cases (action item).outcome with
      | error cause => rfl
      | ok first =>
          change ((Traced.forEach rest action).andThen fun others =>
            Traced.result (first :: others)).outcome = _
          rw [Traced.outcome_andThen, ih]
          rfl

namespace Entry

variable {ρ : Type}

def atOnce (entry : Entry ρ) : Entry (Progress ρ) := entry.withResult (.ready entry.result)

def settled (entry : Entry (Progress ρ)) : Except Fault (Entry ρ) :=
  entry.result.settled.map entry.withResult

@[simp] theorem ready?_atOnce (entry : Entry ρ) : entry.atOnce.ready? = some entry := rfl

@[simp] theorem settled_atOnce (entry : Entry ρ) : entry.atOnce.settled = .ok entry := rfl

@[simp] theorem filterMap_pending?_ready (key : Value) (present : Bool) (value : ρ)
    (rest : List (Entry (Progress ρ))) :
    (⟨key, present, .ready value⟩ :: rest).filterMap pending? = rest.filterMap pending? := rfl

@[simp] theorem filterMap_pending?_pending (key : Value) (present : Bool) (deferred : Deferred ρ)
    (rest : List (Entry (Progress ρ))) :
    (⟨key, present, .pending deferred⟩ :: rest).filterMap pending? =
      deferred :: rest.filterMap pending? := rfl

end Entry

section Join

variable {ρ : Type}

theorem mapM_ready?_atOnce (entries : List (Entry ρ)) :
    (entries.map Entry.atOnce).mapM Entry.ready? = some entries := by
  induction entries with
  | nil => rfl
  | cons entry rest ih => simp [ih]

theorem joinEntries_atOnce (entries : List (Entry ρ))
    (assemble : List (Entry ρ) → Except Fault Payload) :
    joinEntries (entries.map Entry.atOnce) assemble =
      .ofExcept ((assemble entries).map .ready) := by
  rw [joinEntries, mapM_ready?_atOnce]

theorem eq_atOnce_of_mapM_ready? {entries : List (Entry (Progress ρ))} {done : List (Entry ρ)}
    (ready : entries.mapM Entry.ready? = some done) : entries = done.map Entry.atOnce := by
  induction entries generalizing done with
  | nil =>
      cases ready
      rfl
  | cons entry rest ih =>
      rw [List.mapM_cons] at ready
      rcases entry with ⟨key, present, value | deferred⟩
      · cases others : rest.mapM Entry.ready? with
        | none => simp [Entry.ready?, others] at ready
        | some more =>
            have whole : done = ⟨key, present, value⟩ :: more := by
              simpa [Entry.ready?, Entry.withResult, others] using ready.symm
            rw [whole, ih others]
            rfl
      · simp [Entry.ready?] at ready

theorem settled_of_mapM_ready? {entries : List (Entry (Progress ρ))} {done : List (Entry ρ)}
    (ready : entries.mapM Entry.ready? = some done) :
    entries.map Entry.settled = done.map .ok := by
  rw [eq_atOnce_of_mapM_ready? ready, List.map_map]
  rfl

/-- Filling the awaited results in gives every entry what it settles to. -/
theorem settled_eq_of_fillEntries (entries : List (Entry (Progress ρ))) (resolved : List ρ)
    (awaited : (entries.filterMap Entry.pending?).map Deferred.outcome = resolved.map .ok) :
    entries.map Entry.settled = (fillEntries entries resolved).map .ok := by
  induction entries generalizing resolved with
  | nil => rfl
  | cons entry rest ih =>
      rcases entry with ⟨key, present, value | deferred⟩
      · have others := ih resolved (by simpa using awaited)
        simp [fillEntries, others, Entry.settled, Entry.withResult, Except.map]
      · cases resolved with
        | nil => simp at awaited
        | cons value more =>
            simp only [Entry.filterMap_pending?_pending, List.map_cons, List.cons.injEq] at awaited
            have others := ih more awaited.2
            simp [fillEntries, others, Entry.settled, Entry.withResult, Except.map, awaited.1]

theorem exists_resolved_of_settled {entries : List (Entry (Progress ρ))} {done : List (Entry ρ)}
    (settles : entries.map Entry.settled = done.map .ok) :
    ∃ resolved : List ρ, (entries.filterMap Entry.pending?).map Deferred.outcome = resolved.map .ok := by
  induction entries generalizing done with
  | nil => exact ⟨[], rfl⟩
  | cons entry rest ih =>
      cases done with
      | nil => simp at settles
      | cons first more =>
          simp only [List.map_cons, List.cons.injEq] at settles
          obtain ⟨resolved, others⟩ := ih settles.2
          rcases entry with ⟨key, present, value | deferred⟩
          · exact ⟨resolved, by simpa using others⟩
          · obtain ⟨value, brought, -⟩ :=
              (except_map_eq_ok_iff _ _ _).mp (show Except.map _ deferred.outcome = _ from settles.1)
            exact ⟨value :: resolved, by simp [others, brought]⟩

/-- Joined entries settle to what assembling makes of the settled entries; when one of them
settles to a fault, so does the whole. -/
theorem settled_joinEntries_eq_ok_iff (entries : List (Entry (Progress ρ)))
    (assemble : List (Entry ρ) → Except Fault Payload) (payload : Payload) :
    (joinEntries entries assemble).settled = .ok payload ↔
      ∃ done, entries.map Entry.settled = done.map .ok ∧ assemble done = .ok payload := by
  cases ready : entries.mapM Entry.ready? with
  | some whole =>
      have settles := settled_of_mapM_ready? ready
      rw [joinEntries, ready]
      constructor
      · intro joined
        refine ⟨whole, settles, ?_⟩
        cases assembled : assemble whole with
        | error cause => simp [assembled, Traced.settled, Except.map, Except.bind] at joined
        | ok final => simpa [assembled, Traced.settled, Except.map, Except.bind] using joined
      · rintro ⟨done, same, assembled⟩
        rw [map_ok_injective (settles.symm.trans same)]
        simp [assembled, Traced.settled, Except.map, Except.bind]
  | none =>
      rw [joinEntries, ready]
      simp only [Traced.settled_result, Progress.settled_pending, Deferred.outcome_map,
        Traced.outcome_ofExcept, except_bind_eq_ok_iff, Deferred.outcome_all_eq_ok_iff]
      constructor
      · rintro ⟨resolved, awaited, assembled⟩
        exact ⟨_, settled_eq_of_fillEntries entries resolved awaited, assembled⟩
      · rintro ⟨done, settles, assembled⟩
        obtain ⟨resolved, awaited⟩ := exists_resolved_of_settled settles
        have filled := settled_eq_of_fillEntries entries resolved awaited
        rw [map_ok_injective (settles.symm.trans filled)] at assembled
        exact ⟨resolved, awaited, assembled⟩

theorem settled_joinEntries_append_eq_ok_iff (results : List (Entry (Progress ρ)))
    (there : List (Entry ρ)) (assemble : List (Entry ρ) → Except Fault Payload)
    (payload : Payload) :
    (joinEntries (results ++ there.map Entry.atOnce) assemble).settled = .ok payload ↔
      ∃ done, results.map Entry.settled = done.map .ok ∧ assemble (done ++ there) = .ok payload := by
  have known : (there.map Entry.atOnce).map Entry.settled = there.map .ok := by
    rw [List.map_map]
    rfl
  rw [settled_joinEntries_eq_ok_iff]
  constructor
  · rintro ⟨whole, settled, assembled⟩
    rw [List.map_append, known] at settled
    obtain ⟨done, last, rfl, first, second⟩ := List.append_eq_map_iff.mp settled
    rw [map_ok_injective second] at assembled
    exact ⟨done, first.symm, assembled⟩
  · rintro ⟨done, settled, assembled⟩
    exact ⟨done ++ there, by rw [List.map_append, List.map_append, settled, known], assembled⟩

theorem awaits_joinEntries (entries : List (Entry (Progress ρ)))
    (assemble : List (Entry ρ) → Except Fault Payload) :
    (joinEntries entries assemble).awaits = entries.flatMap fun entry => entry.result.awaits := by
  cases ready : entries.mapM Entry.ready? with
  | some whole =>
      rw [eq_atOnce_of_mapM_ready? ready, joinEntries_atOnce, Traced.awaits]
      have none : (whole.map Entry.atOnce).flatMap (fun entry => entry.result.awaits) = [] := by
        simp [List.flatMap_eq_nil_iff, Entry.atOnce, Entry.withResult, Progress.awaits]
      rw [none]
      cases assemble whole <;> rfl
  | none =>
      rw [joinEntries, ready]
      change ((Deferred.all (entries.filterMap Entry.pending?)).map _).awaits = _
      rw [Deferred.awaits_map_silent, Deferred.awaits_all]
      clear ready
      induction entries with
      | nil => rfl
      | cons entry rest ih =>
          rcases entry with ⟨key, present, value | deferred⟩
          · simpa [Progress.awaits] using ih
          · simpa [Progress.awaits] using ih

end Join
end TypedTables
