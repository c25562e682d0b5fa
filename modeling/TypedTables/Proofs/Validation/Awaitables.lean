import TypedTables.Proofs.Validation.Jobs
import TypedTables.Proofs.Validation.Leaves
import TypedTables.Proofs.Value.Awaitables

/-!
# Validating values without awaitables

From a value without awaitables leaves bring values without awaitables, and results without
awaitables are assembled to such a value.
-/

namespace TypedTables

/-- Neither the key nor the result of a part holds an awaitable. -/
def Entry.HoldsNoAwaitable (entry : Entry Payload) : Prop :=
  entry.key.HoldsNoAwaitable ∧ entry.result.value.HoldsNoAwaitable

namespace Leaf

theorem holdsNoAwaitable_text {rules : TextRules} {input : Value} {payload : Payload}
    (holds : input.HoldsNoAwaitable) (brings : text rules input = .ok payload) :
    payload.value.HoldsNoAwaitable := by
  rcases text_eq_ok brings with ⟨written, equal⟩ | rfl
  · rw [equal]
    trivial
  · exact holds

theorem holdsNoAwaitable_coerceNumber {input : Value} (holds : input.HoldsNoAwaitable) :
    (coerceNumber input).HoldsNoAwaitable := by
  cases input with
  | text written =>
      simp only [coerceNumber]
      cases FloatReading.ofText? written with
      | none => trivial
      | some reading => cases reading <;> trivial
  | _ => exact holds

theorem holdsNoAwaitable_number {rules : NumberRules} {input : Value} {payload : Payload}
    (holds : input.HoldsNoAwaitable) (brings : number rules input = .ok payload) :
    payload.value.HoldsNoAwaitable := by
  rw [value_number brings]
  split
  · exact holdsNoAwaitable_coerceNumber holds
  · exact holds

theorem holdsNoAwaitable_ofKind {expected : String} {passes : Value → Bool} {input : Value}
    (holds : input.HoldsNoAwaitable) : (ofKind expected passes input).value.HoldsNoAwaitable := by
  unfold ofKind
  split <;> exact holds

theorem holdsNoAwaitable_checkUuid (format : String) (identifier : Uuid) {input : Value}
    (holds : input.HoldsNoAwaitable) :
    (checkUuid format identifier input).value.HoldsNoAwaitable := by
  unfold checkUuid
  simp only
  split
  · trivial
  · split
    · exact holds
    · cases demandedVersion? format with
      | none => trivial
      | some version =>
          simp only
          split
          · trivial
          · exact holds

theorem holdsNoAwaitable_payload {form : Form Schema} {input : Value} {payload : Payload}
    (holds : input.HoldsNoAwaitable) (brings : payload? form input = some (.ok payload)) :
    payload.value.HoldsNoAwaitable := by
  cases form with
  | text rules =>
      simp only [payload?, Option.some.injEq] at brings
      exact holdsNoAwaitable_text holds brings
  | number rules =>
      simp only [payload?, Option.some.injEq] at brings
      exact holdsNoAwaitable_number holds brings
  | uuid format =>
      simp only [payload?, Option.some.injEq, Except.ok.injEq] at brings
      subst brings
      cases input with
      | uuid identifier => exact holdsNoAwaitable_checkUuid format identifier holds
      | text written =>
          simp only [uuid]
          cases Uuid.ofText? written with
          | none => trivial
          | some identifier => exact holdsNoAwaitable_checkUuid format identifier holds
      | _ => exact holds
  | bigint format =>
      simp only [payload?, Option.some.injEq, Except.ok.injEq] at brings
      subst brings
      cases input with
      | integer number =>
          simp only [bigint]
          cases format.bind bigintRange? with
          | none => trivial
          | some range =>
              simp only
              split
              · trivial
              · split <;> trivial
      | _ => exact holds
  | date coerce =>
      simp only [payload?, Option.some.injEq, Except.ok.injEq] at brings
      subst brings
      unfold date
      split
      · exact holds
      all_goals try exact holds
      all_goals
        split
        · split
          · trivial
          · exact holds
        · exact holds
  | enumeration values =>
      simp only [payload?, Option.some.injEq, Except.ok.injEq] at brings
      subst brings
      cases input <;>
        simp only [enumeration] <;>
        split <;>
        exact holds
  | literal values =>
      simp only [payload?, Option.some.injEq, Except.ok.injEq] at brings
      subst brings
      unfold literal
      split <;> exact holds
  | undefined | void | null | boolean | symbol | function =>
      simp only [payload?, Option.some.injEq, Except.ok.injEq] at brings
      subst brings
      exact holdsNoAwaitable_ofKind holds
  | any | unknown | never =>
      simp only [payload?, Option.some.injEq, Except.ok.injEq] at brings
      subst brings
      exact holds
  | _ => simp [payload?] at brings

end Leaf

namespace Container

theorem mem_outputEntries {entries : List (Entry Payload)} {output : Value × Value}
    (member : output ∈ outputEntries entries) :
    ∃ entry ∈ entries, output = (entry.key, entry.result.value) := by
  obtain ⟨entry, present, brought⟩ := List.mem_filterMap.mp member
  split at brought
  · cases brought
  · exact ⟨entry, present, (Option.some.inj brought).symm⟩

theorem holdsNoAwaitable_assembleObject (input : Value) (refused : List String)
    {entries : List (Entry Payload)} (holds : ∀ entry ∈ entries, entry.HoldsNoAwaitable) :
    (assembleObject input refused entries).value.HoldsNoAwaitable := by
  apply Value.holdsNoAwaitable_mapping
  intro output member
  obtain ⟨entry, present, rfl⟩ := mem_outputEntries member
  exact holds entry present

theorem holdsNoAwaitable_assembleList (issues : List Issue) {entries : List (Entry Payload)}
    (holds : ∀ entry ∈ entries, entry.HoldsNoAwaitable) :
    (assembleList issues entries).value.HoldsNoAwaitable := by
  apply Value.holdsNoAwaitable_list
  intro item member
  obtain ⟨entry, present, rfl⟩ := List.mem_map.mp member
  exact (holds entry present).2

theorem holdsNoAwaitable_assembleSet {issues : List Issue} {entries : List (Entry Payload)}
    {payload : Payload} (holds : ∀ entry ∈ entries, entry.HoldsNoAwaitable)
    (assembles : assembleSet issues entries = .ok payload) : payload.value.HoldsNoAwaitable := by
  obtain ⟨members, collects, rfl⟩ := (except_map_eq_ok_iff _ _ _).mp assembles
  apply Value.holdsNoAwaitable_set
  intro member collected
  rcases mem_of_collectMembers collects collected with brought | present
  · obtain ⟨entry, isDone, rfl⟩ := List.mem_map.mp brought
    exact (holds entry isDone).2
  · cases present

theorem holdsNoAwaitable_assembleKeyed {label : String} {entries : List (Entry Payload)}
    {start payload : Payload} (holds : ∀ entry ∈ entries, entry.HoldsNoAwaitable)
    (holdsStart : start.value.HoldsNoAwaitable)
    (assembles : assembleKeyed label entries start = .ok payload) :
    payload.value.HoldsNoAwaitable := by
  refine value_of_assembleKeyed Value.HoldsNoAwaitable ?_ holdsStart assembles
  intro keyEntry isKey valueEntry isValue current holdsCurrent
  apply Value.holdsNoAwaitable_mapping
  apply Value.forall_put (holds keyEntry isKey).2 (holds valueEntry isValue).2
  cases entries : current.entries? with
  | none => simp
  | some others => exact holdsCurrent.entries entries

end Container

theorem Combination.holdsNoAwaitable_assembleIntersection {input : Value}
    {entries : List (Entry Payload)} (holdsInput : input.HoldsNoAwaitable)
    (holds : ∀ entry ∈ entries, entry.HoldsNoAwaitable) :
    (assembleIntersection input entries).value.HoldsNoAwaitable := by
  unfold assembleIntersection
  simp only
  split
  · exact holdsInput
  · split
    · rename_i left right _
      cases merges : Value.merge left.result.value right.result.value with
      | none => exact holdsInput
      | some merged =>
          exact Value.holdsNoAwaitable_merge _ _ (holds left (by simp)).2 (holds right (by simp)).2
            merges
    · exact holdsInput

theorem Wrapper.holdsNoAwaitable_freezeClean {payload : Payload}
    (holds : payload.value.HoldsNoAwaitable) : (freezeClean payload).value.HoldsNoAwaitable := by
  unfold freezeClean
  split
  · cases kind : payload.value <;> rw [kind] at holds <;> exact holds
  · exact holds

end TypedTables
