import Mathlib.Data.List.Forall2
import TypedTables.Proofs.Validation.Joining

/-!
# Every result in its own entry

Some of the results that are joined are there and some are awaited, in any pattern. The awaited
ones are numbered on their own, by their place among the awaited ones. Here every entry is followed
through: it keeps its key and its presence, and its result is the one it had or the one that its
own deferred result brings. The entries are assembled once, all of them together.
-/

namespace TypedTables

section Join

variable {ρ σ : Type}

/-- Joins the results of parts and assembles them, where assembling is a computation with events of
its own. -/
def joinTraced (entries : List (Entry (Progress ρ)))
    (assemble : List (Entry ρ) → Traced σ) : Traced (Progress σ) :=
  match entries.mapM Entry.ready? with
  | some ready => (assemble ready).andThen fun whole => .result (.ready whole)
  | none =>
      .result (.pending ((Deferred.all (entries.filterMap Entry.pending?)).map fun resolved =>
        assemble (fillEntries entries resolved)))

theorem joinEntries_eq_joinTraced (entries : List (Entry (Progress ρ)))
    (assemble : List (Entry ρ) → Except Fault Payload) :
    joinEntries entries assemble = joinTraced entries fun done => .ofExcept (assemble done) := by
  rw [joinEntries, joinTraced]
  cases entries.mapM Entry.ready? with
  | none => rfl
  | some ready =>
      change Traced.ofExcept ((assemble ready).map Progress.ready) =
        (Traced.ofExcept (assemble ready)).andThen fun whole => Traced.result (.ready whole)
      cases assemble ready <;> rfl

/-- What becomes of an entry: the same key and the same presence, with the result that was there or
the one that the entry's own deferred result brings. -/
inductive Entry.Becomes : Entry (Progress ρ) → Entry ρ → Prop where
  | there (key : Value) (present : Bool) (value : ρ) :
      Becomes ⟨key, present, .ready value⟩ ⟨key, present, value⟩
  | brought (key : Value) (present : Bool) {deferred : Deferred ρ} {value : ρ}
      (brings : deferred.outcome = .ok value) :
      Becomes ⟨key, present, .pending deferred⟩ ⟨key, present, value⟩

theorem Entry.becomes_iff_settled (entry : Entry (Progress ρ)) (done : Entry ρ) :
    entry.Becomes done ↔ entry.settled = .ok done := by
  rcases entry with ⟨key, present, value | deferred⟩
  · constructor
    · intro becomes
      cases becomes
      rfl
    · intro settles
      cases settles
      exact .there key present value
  · constructor
    · intro becomes
      cases becomes with
      | brought _ _ brings =>
          exact (except_map_eq_ok_iff _ _ _).mpr ⟨_, brings, rfl⟩
    · intro settles
      obtain ⟨value, brings, rfl⟩ :=
        (except_map_eq_ok_iff _ _ _).mp (show Except.map _ deferred.outcome = _ from settles)
      exact .brought key present brings

theorem forall₂_becomes_iff_settled (entries : List (Entry (Progress ρ))) (done : List (Entry ρ)) :
    List.Forall₂ Entry.Becomes entries done ↔ entries.map Entry.settled = done.map .ok := by
  induction entries generalizing done with
  | nil => cases done <;> simp
  | cons entry rest ih =>
      cases done with
      | nil => simp
      | cons first more =>
          rw [List.forall₂_cons, Entry.becomes_iff_settled, ih, List.map_cons, List.map_cons,
            List.cons.injEq]

theorem exists_forall₂_becomes {entries : List (Entry (Progress ρ))}
    (resolves : ∀ deferred ∈ entries.filterMap Entry.pending?,
      ∃ value, deferred.outcome = .ok value) :
    ∃ done, List.Forall₂ Entry.Becomes entries done := by
  induction entries with
  | nil => exact ⟨[], .nil⟩
  | cons entry rest ih =>
      rcases entry with ⟨key, present, value | deferred⟩
      · rw [Entry.filterMap_pending?_ready] at resolves
        obtain ⟨done, becomes⟩ := ih resolves
        exact ⟨_, .cons (.there key present value) becomes⟩
      · rw [Entry.filterMap_pending?_pending] at resolves
        obtain ⟨value, brings⟩ := resolves deferred (by simp)
        obtain ⟨done, becomes⟩ := ih fun next member => resolves next (by simp [member])
        exact ⟨_, .cons (.brought key present brings) becomes⟩

theorem mapM_ready?_eq_none_iff (entries : List (Entry (Progress ρ))) :
    entries.mapM Entry.ready? = none ↔ entries.filterMap Entry.pending? ≠ [] := by
  induction entries with
  | nil => simp
  | cons entry rest ih =>
      rcases entry with ⟨key, present, value | deferred⟩
      · rw [Entry.filterMap_pending?_ready, ← ih]
        cases others : rest.mapM Entry.ready? <;> simp [Entry.ready?, others]
      · simp [Entry.ready?]

theorem joinTraced_of_none_awaited {entries : List (Entry (Progress ρ))} {done : List (Entry ρ)}
    (becomes : List.Forall₂ Entry.Becomes entries done)
    (noneAwaited : entries.filterMap Entry.pending? = []) (assemble : List (Entry ρ) → Traced σ) :
    joinTraced entries assemble =
      (assemble done).andThen fun whole => .result (.ready whole) := by
  cases ready : entries.mapM Entry.ready? with
  | none => exact absurd noneAwaited ((mapM_ready?_eq_none_iff entries).mp ready)
  | some whole =>
      have settles := (forall₂_becomes_iff_settled entries done).mp becomes
      have same : whole = done :=
        map_ok_injective ((settled_of_mapM_ready? ready).symm.trans settles)
      rw [joinTraced, ready, same]

/-- With results awaited, joining waits for all of them; what happens then is what awaiting each of
them brings, and after it the assembling of the entries. -/
theorem joinTraced_of_awaited {entries : List (Entry (Progress ρ))} {done : List (Entry ρ)}
    (becomes : List.Forall₂ Entry.Becomes entries done)
    (pending : entries.filterMap Entry.pending? ≠ []) (assemble : List (Entry ρ) → Traced σ) :
    ∃ deferred : Deferred σ, joinTraced entries assemble = .result (.pending deferred) ∧
      deferred.outcome = (assemble done).outcome ∧
      deferred.events = Deferred.allEvents 0 (entries.filterMap Entry.pending?) ++
        (assemble done).events.map (deferred.finish, ·) := by
  have settles := (forall₂_becomes_iff_settled entries done).mp becomes
  obtain ⟨resolved, awaited⟩ := exists_resolved_of_settled settles
  have filled : fillEntries entries resolved = done :=
    map_ok_injective ((settled_eq_of_fillEntries entries resolved awaited).symm.trans settles)
  have arrives := (Deferred.outcome_all_eq_ok_iff _ resolved).mpr awaited
  refine ⟨(Deferred.all (entries.filterMap Entry.pending?)).map fun resolved =>
    assemble (fillEntries entries resolved), ?_, ?_, ?_⟩
  · rw [joinTraced, (mapM_ready?_eq_none_iff entries).mpr pending]
  · rw [Deferred.outcome_map, arrives]
    change (assemble (fillEntries entries resolved)).outcome = _
    rw [filled]
  · rw [Deferred.map, arrives]
    change _ ++ (assemble (fillEntries entries resolved)).events.map _ = _
    rw [filled]
    rfl

/-- Joining puts every result in its own entry: when every awaited result is brought, there is one
list of entries that is assembled, once and whatever assembling does, and entry by entry it is the
list that was joined. -/
theorem joined_results_stand_in_their_entries (entries : List (Entry (Progress ρ)))
    (resolves : ∀ deferred ∈ entries.filterMap Entry.pending?,
      ∃ value, deferred.outcome = .ok value) :
    ∃ done : List (Entry ρ), done.length = entries.length ∧
      List.Forall₂ Entry.Becomes entries done ∧
      (∀ assemble : List (Entry ρ) → Except Fault Payload,
        joinEntries entries assemble =
            joinTraced entries (fun whole => .ofExcept (assemble whole)) ∧
          (joinEntries entries assemble).settled = assemble done) ∧
      (∀ (σ : Type) (assemble : List (Entry ρ) → Traced σ),
        (entries.filterMap Entry.pending? = [] ∧
          joinTraced entries assemble =
            (assemble done).andThen fun whole => .result (.ready whole)) ∨
        (entries.filterMap Entry.pending? ≠ [] ∧
          ∃ deferred : Deferred σ, joinTraced entries assemble = .result (.pending deferred) ∧
            deferred.outcome = (assemble done).outcome ∧
            deferred.events = Deferred.allEvents 0 (entries.filterMap Entry.pending?) ++
              (assemble done).events.map (deferred.finish, ·))) := by
  obtain ⟨done, becomes⟩ := exists_forall₂_becomes resolves
  refine ⟨done, becomes.length_eq.symm, becomes, fun assemble => ?_, fun σ assemble => ?_⟩
  · refine ⟨joinEntries_eq_joinTraced entries assemble, ?_⟩
    rw [joinEntries_eq_joinTraced]
    by_cases pending : entries.filterMap Entry.pending? = []
    · rw [joinTraced_of_none_awaited becomes pending]
      cases assembled : assemble done <;> rfl
    · obtain ⟨deferred, joined, outcome, -⟩ := joinTraced_of_awaited becomes pending
        fun whole => Traced.ofExcept (assemble whole)
      rw [joined, Traced.settled_result, Progress.settled_pending, outcome,
        Traced.outcome_ofExcept]
  · by_cases pending : entries.filterMap Entry.pending? = []
    · exact .inl ⟨pending, joinTraced_of_none_awaited becomes pending assemble⟩
    · exact .inr ⟨pending, joinTraced_of_awaited becomes pending assemble⟩

/-- Two results that are there and, between and after them, two that are awaited. -/
def alternatingEntries : List (Entry (Progress Payload)) :=
  [⟨.text "a", true, .ready (.accept (.integer 1))⟩,
    ⟨.text "b", true, .pending (.now (.ok (.accept (.integer 2))))⟩,
    ⟨.text "c", false, .ready (.accept .null)⟩,
    ⟨.text "d", true, .pending (.now (.ok (.accept (.integer 4))))⟩]

theorem joined_results_stand_in_their_entries_alternating :
    (∀ deferred ∈ alternatingEntries.filterMap Entry.pending?,
      ∃ value, deferred.outcome = .ok value) ∧
    ∀ assemble : List (Entry Payload) → Except Fault Payload,
      (joinEntries alternatingEntries assemble).settled =
        assemble [⟨.text "a", true, .accept (.integer 1)⟩, ⟨.text "b", true, .accept (.integer 2)⟩,
          ⟨.text "c", false, .accept .null⟩, ⟨.text "d", true, .accept (.integer 4)⟩] := by
  have resolves : ∀ deferred ∈ alternatingEntries.filterMap Entry.pending?,
      ∃ value, deferred.outcome = .ok value := by
    intro deferred member
    rcases List.mem_cons.mp member with rfl | later
    · exact ⟨_, rfl⟩
    · rcases List.mem_singleton.mp later with rfl
      exact ⟨_, rfl⟩
  obtain ⟨done, -, becomes, joins, -⟩ :=
    joined_results_stand_in_their_entries alternatingEntries resolves
  have settles := (forall₂_becomes_iff_settled _ _).mp becomes
  refine ⟨resolves, fun assemble => (joins assemble).2.trans (congrArg assemble ?_)⟩
  apply map_ok_injective
  rw [← settles]
  rfl

end Join
end TypedTables
