import TypedTables.Effect.Deferred

/-!
# What computations settle to

A computation whose result may have to be awaited settles to one value or one fault, whatever
is awaited on the way; each awaitable value brings its outcome to all that await it. Going on with a result, joining deferred results and waiting for several
of them together are described by what they settle to. Waiting for several results succeeds
exactly when each of them does, and the values come in the order of the results; which fault wins
is a matter of timing and is left open here.
-/

namespace TypedTables

section Except

variable {ε α β : Type}

theorem except_bind_eq_ok_iff (first : Except ε α) (next : α → Except ε β) (value : β) :
    first.bind next = .ok value ↔ ∃ middle, first = .ok middle ∧ next middle = .ok value := by
  cases first <;> simp [Except.bind]

theorem except_map_eq_ok_iff (first : Except ε α) (next : α → β) (value : β) :
    first.map next = .ok value ↔ ∃ middle, first = .ok middle ∧ next middle = value := by
  cases first <;> simp [Except.map]

theorem except_bind_eq_error_iff (first : Except ε α) (next : α → Except ε β) (cause : ε) :
    first.bind next = .error cause ↔
      first = .error cause ∨ ∃ middle, first = .ok middle ∧ next middle = .error cause := by
  cases first <;> simp [Except.bind]

theorem except_map_eq_error_iff (first : Except ε α) (next : α → β) (cause : ε) :
    first.map next = .error cause ↔ first = .error cause := by
  cases first <;> simp [Except.map]

theorem map_ok_injective {left right : List α}
    (same : left.map (Except.ok (ε := ε)) = right.map Except.ok) : left = right :=
  (List.map_inj_right fun _ _ equal => Except.ok.inj equal).mp same

/-- A traversal succeeds exactly when every item does, with the values in order. -/
theorem mapM_eq_ok_iff (action : α → Except ε β) (items : List α) (values : List β) :
    items.mapM action = .ok values ↔ items.map action = values.map .ok := by
  induction items generalizing values with
  | nil => cases values <;> simp [pure, Except.pure]
  | cons item rest ih =>
      cases head : action item with
      | error cause => cases values <;> simp [head, bind, Except.bind]
      | ok first =>
          cases tail : rest.mapM action with
          | error cause =>
              have fails (others : List β) : rest.map action ≠ others.map .ok := by
                intro same
                have succeeds := (ih others).mpr same
                rw [tail] at succeeds
                cases succeeds
              cases values <;> simp [head, tail, bind, Except.bind, fails]
          | ok others =>
              have same := (ih others).mp tail
              cases values with
              | nil => simp [head, tail, bind, Except.bind, pure, Except.pure]
              | cons value more =>
                  simp only [List.mapM_cons, head, tail, bind, Except.bind, pure, Except.pure,
                    List.map_cons, same, Except.ok.injEq, List.cons.injEq]
                  exact and_congr_right fun _ => ⟨fun equal => by rw [equal], map_ok_injective⟩

/-- A traversal in two stages succeeds exactly when each stage does on every item. -/
theorem mapM_bind_eq_ok_iff {ε α β γ : Type} (first : α → Except ε β) (next : β → Except ε γ)
    (items : List α) (values : List γ) :
    (items.mapM fun item => (first item).bind next) = .ok values ↔
      ∃ middles, items.mapM first = .ok middles ∧ middles.map next = values.map .ok := by
  simp only [mapM_eq_ok_iff]
  induction items generalizing values with
  | nil =>
      constructor
      · intro none
        exact ⟨[], rfl, none⟩
      · rintro ⟨middles, none, same⟩
        rw [List.map_eq_nil_iff.mp none.symm] at same
        exact same
  | cons item rest ih =>
      cases values with
      | nil =>
          constructor
          · intro none
            simp at none
          · rintro ⟨middles, firsts, none⟩
            rw [List.map_eq_nil_iff.mp none] at firsts
            simp at firsts
      | cons value others =>
          simp only [List.map_cons, List.cons.injEq, ih, except_bind_eq_ok_iff]
          constructor
          · rintro ⟨⟨middle, ofFirst, ofNext⟩, middles, firsts, nexts⟩
            exact ⟨middle :: middles, by simp [ofFirst, firsts], by simp [ofNext, nexts]⟩
          · rintro ⟨middles, firsts, nexts⟩
            cases middles with
            | nil => simp at firsts
            | cons middle more =>
                simp only [List.map_cons, List.cons.injEq] at firsts nexts
                exact ⟨⟨middle, firsts.1, nexts.1⟩, more, firsts.2, nexts.2⟩

theorem exists_of_mapM_eq_error {action : α → Except ε β} {items : List α} {cause : ε}
    (fails : items.mapM action = .error cause) : ∃ item ∈ items, action item = .error cause := by
  induction items with
  | nil => cases fails
  | cons item rest ih =>
      rw [List.mapM_cons] at fails
      rcases (except_bind_eq_error_iff _ _ _).mp fails with head | ⟨_, -, tail⟩
      · exact ⟨item, by simp, head⟩
      · rcases (except_bind_eq_error_iff _ _ _).mp tail with later | ⟨_, -, last⟩
        · obtain ⟨next, member, failed⟩ := ih later
          exact ⟨next, List.mem_cons_of_mem _ member, failed⟩
        · cases last

theorem exists_ok_of_mapM_eq_ok {action : α → Except ε β} {items : List α} {values : List β}
    (succeeds : items.mapM action = .ok values) {item : α} (member : item ∈ items) :
    ∃ value, action item = .ok value := by
  have brought := List.mem_map_of_mem (f := action) member
  rw [(mapM_eq_ok_iff _ _ _).mp succeeds] at brought
  obtain ⟨value, -, equal⟩ := List.mem_map.mp brought
  exact ⟨value, equal.symm⟩

theorem exists_mapM_eq_ok_iff (action : α → Except ε β) (items : List α) :
    (∃ values, items.mapM action = .ok values) ↔
      ∀ item ∈ items, ∃ value, action item = .ok value := by
  refine ⟨fun ⟨_, succeeds⟩ _ member => exists_ok_of_mapM_eq_ok succeeds member, fun each => ?_⟩
  induction items with
  | nil => exact ⟨[], rfl⟩
  | cons item rest ih =>
      obtain ⟨value, first⟩ := each item List.mem_cons_self
      obtain ⟨values, others⟩ := ih fun next member => each next (List.mem_cons_of_mem _ member)
      exact ⟨value :: values, by rw [List.mapM_cons, first, others]; rfl⟩

theorem exists_except_map_eq_ok_iff (first : Except ε α) (next : α → β) :
    (∃ value, first.map next = .ok value) ↔ ∃ middle, first = .ok middle := by
  cases first <;> simp [Except.map]

theorem exists_mem_of_mapM_eq_ok {action : α → Except ε β} {items : List α} {values : List β}
    (succeeds : items.mapM action = .ok values) {value : β} (member : value ∈ values) :
    ∃ item ∈ items, action item = .ok value := by
  have brought := List.mem_map_of_mem (f := Except.ok (ε := ε)) member
  rw [← (mapM_eq_ok_iff _ _ _).mp succeeds] at brought
  exact List.mem_map.mp brought

theorem exists_mapM_eq_error {action : α → Except ε β} {items : List α} {item : α} {cause : ε}
    (member : item ∈ items) (fails : action item = .error cause) :
    ∃ other, items.mapM action = .error other := by
  cases traversed : items.mapM action with
  | error other => exact ⟨other, rfl⟩
  | ok values =>
      obtain ⟨value, succeeds⟩ := exists_ok_of_mapM_eq_ok traversed member
      cases fails.symm.trans succeeds

/-- An outcome is a result of one kind or a fault of one kind. -/
def EndsIn (fault : ε → Prop) (gives : α → Prop) : Except ε α → Prop
  | .error cause => fault cause
  | .ok value => gives value

namespace EndsIn

variable {fault : ε → Prop} {gives : α → Prop} {results : β → Prop}

theorem anyhow (outcome : Except ε α) : EndsIn (fun _ => True) (fun _ => True) outcome := by
  cases outcome <;> trivial

theorem mono {weaker : ε → Prop} {more : α → Prop} {outcome : Except ε α}
    (ends : EndsIn fault gives outcome) (faults : ∀ cause, fault cause → weaker cause)
    (values : ∀ value, gives value → more value) : EndsIn weaker more outcome := by
  cases outcome with
  | error cause => exact faults cause ends
  | ok value => exact values value ends

theorem bind {first : Except ε α} {next : α → Except ε β} (ends : EndsIn fault gives first)
    (further : ∀ value, first = .ok value → gives value → EndsIn fault results (next value)) :
    EndsIn fault results (first.bind next) := by
  cases first with
  | error cause => exact ends
  | ok value => exact further value rfl ends

theorem map {first : Except ε α} {next : α → β} (ends : EndsIn fault gives first)
    (further : ∀ value, gives value → results (next value)) :
    EndsIn fault results (first.map next) := by
  cases first with
  | error cause => exact ends
  | ok value => exact further value ends

theorem mapM {action : α → Except ε β} {items : List α}
    (each : ∀ item ∈ items, EndsIn fault results (action item)) :
    EndsIn fault (fun values => ∀ value ∈ values, results value) (items.mapM action) := by
  induction items with
  | nil => exact fun value member => by cases member
  | cons item rest ih =>
      rw [List.mapM_cons]
      refine bind (each item (by simp)) fun value _ given => ?_
      refine bind (ih fun next member => each next (by simp [member])) fun values _ others => ?_
      intro result member
      rcases List.mem_cons.mp member with rfl | later
      · exact given
      · exact others result later

end EndsIn

end Except

/-- A computation that ends in a result, or in another fault than going too deep. -/
def InTime {α : Type} (outcome : Except Fault α) : Prop :=
  EndsIn (· ≠ .tooDeep) (fun _ => True) outcome

namespace InTime

variable {α β : Type} {outcome : Except Fault α}

@[simp] theorem of_ok (value : α) : InTime (.ok value : Except Fault α) := trivial

@[simp] theorem error_iff {cause : Fault} :
    InTime (.error cause : Except Fault α) ↔ cause ≠ .tooDeep :=
  Iff.rfl

theorem iff_ne : InTime outcome ↔ outcome ≠ .error .tooDeep := by
  cases outcome <;> simp

theorem bind {next : α → Except Fault β} (inTime : InTime outcome)
    (further : ∀ value, outcome = .ok value → InTime (next value)) :
    InTime (outcome.bind next) :=
  EndsIn.bind inTime fun value brings _ => further value brings

theorem map (next : α → β) (inTime : InTime outcome) : InTime (outcome.map next) :=
  EndsIn.map inTime fun _ _ => trivial

theorem mapM {action : α → Except Fault β} {items : List α}
    (each : ∀ item ∈ items, InTime (action item)) : InTime (items.mapM action) :=
  EndsIn.mono (EndsIn.mapM each) (fun _ other => other) fun _ _ => trivial

end InTime

section Settling

variable {α β : Type}

@[simp] theorem Traced.outcome_result (value : α) : (Traced.result value).outcome = .ok value := rfl

@[simp] theorem Traced.outcome_fault (cause : Fault) :
    (Traced.fault cause : Traced α).outcome = .error cause := rfl

@[simp] theorem Traced.outcome_ofExcept (outcome : Except Fault α) :
    (Traced.ofExcept outcome).outcome = outcome := rfl

@[simp] theorem Traced.outcome_emit (event : Event) : (Traced.emit event).outcome = .ok () := rfl

@[simp] theorem Traced.outcome_andThen (first : Traced α) (next : α → Traced β) :
    (first.andThen next).outcome = first.outcome.bind fun value => (next value).outcome := by
  rcases first with ⟨events, outcome⟩
  cases outcome <;> rfl

/-- What a result that is there, or awaited, turns out to be. -/
def Progress.settled : Progress α → Except Fault α
  | .ready value => .ok value
  | .pending deferred => deferred.outcome

/-- What a computation settles to once everything it waits for is there. -/
def Traced.settled (computation : Traced (Progress α)) : Except Fault α :=
  computation.outcome.bind Progress.settled

@[simp] theorem Progress.settled_ready (value : α) : (Progress.ready value).settled = .ok value :=
  rfl

@[simp] theorem Progress.settled_pending (deferred : Deferred α) :
    (Progress.pending deferred).settled = deferred.outcome := rfl

theorem Progress.outcome_toDeferred (progress : Progress α) :
    progress.toDeferred.outcome = progress.settled := by
  cases progress <;> rfl

@[simp] theorem Deferred.outcome_map (deferred : Deferred α) (next : α → Traced β) :
    (deferred.map next).outcome = deferred.outcome.bind fun value => (next value).outcome := by
  rcases deferred with ⟨events, finish, outcome⟩
  cases outcome <;> rfl

@[simp] theorem Deferred.outcome_join (deferred : Deferred (Deferred α)) :
    deferred.join.outcome = deferred.outcome.bind Deferred.outcome := by
  rcases deferred with ⟨events, finish, outcome⟩
  cases outcome <;> rfl

@[simp] theorem Deferred.outcome_now (outcome : Except Fault α) :
    (Deferred.now outcome).outcome = outcome := rfl

@[simp] theorem Traced.settled_result (progress : Progress α) :
    (Traced.result progress).settled = progress.settled := rfl

@[simp] theorem Traced.settled_fault (cause : Fault) :
    (Traced.fault cause : Traced (Progress α)).settled = .error cause := rfl

@[simp] theorem Traced.settled_andThen (first : Traced α) (next : α → Traced (Progress β)) :
    (first.andThen next).settled = first.outcome.bind fun value => (next value).settled := by
  rcases first with ⟨events, outcome⟩
  cases outcome <;> rfl

/-- Going on with a result settles to what comes of the settled result, awaited or not. -/
@[simp] theorem Progress.settled_andThen (progress : Progress α)
    (next : α → Traced (Progress β)) :
    (progress.andThen next).settled = progress.settled.bind fun value => (next value).settled := by
  cases progress with
  | ready value => rfl
  | pending deferred =>
      rw [Progress.andThen, Traced.settled_result, settled_pending, Deferred.outcome_join,
        Deferred.outcome_map, settled_pending]
      cases deferred.outcome with
      | error cause => rfl
      | ok value =>
          change ((next value).andThen fun continued =>
            Traced.result continued.toDeferred).outcome.bind Deferred.outcome = (next value).settled
          rw [Traced.outcome_andThen, Traced.settled]
          cases (next value).outcome with
          | error cause => rfl
          | ok continued => exact continued.outcome_toDeferred

/-- A computation that goes on with the result of another settles step by step. -/
theorem Traced.settled_andThen_andThen (first : Traced (Progress α))
    (next : α → Traced (Progress β)) :
    (first.andThen fun progress => progress.andThen next).settled =
      first.settled.bind fun value => (next value).settled := by
  rw [Traced.settled_andThen, Traced.settled]
  cases first.outcome with
  | error cause => rfl
  | ok progress => exact progress.settled_andThen next

theorem Deferred.Verdict.outcome_both_eq_ok_iff (first : Verdict α) (others : Verdict (List α))
    (values : List α) :
    (Verdict.both first others).outcome = .ok values ↔
      ∃ value rest, values = value :: rest ∧ first.outcome = .ok value ∧
        others.outcome = .ok rest := by
  cases firstOutcome : first.outcome with
  | error cause =>
      cases othersOutcome : others.outcome with
      | error otherCause =>
          by_cases order : others.moment.earlier first.moment = true <;>
            simp [Verdict.both, firstOutcome, othersOutcome, order]
      | ok rest => simp [Verdict.both, firstOutcome, othersOutcome]
  | ok value =>
      cases othersOutcome : others.outcome with
      | error cause => simp [Verdict.both, firstOutcome, othersOutcome]
      | ok rest =>
          simp only [Verdict.both, firstOutcome, othersOutcome, Except.ok.injEq]
          constructor
          · rintro rfl
            exact ⟨value, rest, rfl, rfl, rfl⟩
          · rintro ⟨_, _, rfl, rfl, rfl⟩
            rfl

theorem Deferred.outcome_verdict_eq_ok_iff (pieces : List (Deferred α)) (place : Nat)
    (values : List α) :
    (verdict place pieces).outcome = .ok values ↔
      pieces.map Deferred.outcome = values.map .ok := by
  induction pieces generalizing place values with
  | nil => cases values <;> simp [verdict]
  | cons piece rest ih =>
      rw [verdict, Verdict.outcome_both_eq_ok_iff]
      constructor
      · rintro ⟨value, others, rfl, head, tail⟩
        have rests := (ih (place + 1) others).mp tail
        simp only [List.map_cons, rests]
        rw [show piece.outcome = .ok value from head]
      · intro same
        cases values with
        | nil => simp at same
        | cons value others =>
            simp only [List.map_cons, List.cons.injEq] at same
            exact ⟨value, others, rfl, same.1, (ih (place + 1) others).mpr same.2⟩

/-- Waiting for several results together succeeds exactly when each of them does; the values
come in the order in which the results were asked for. -/
theorem Deferred.outcome_all_eq_ok_iff (pieces : List (Deferred α)) (values : List α) :
    (Deferred.all pieces).outcome = .ok values ↔
      pieces.map Deferred.outcome = values.map .ok :=
  outcome_verdict_eq_ok_iff pieces 0 values

end Settling
end TypedTables
