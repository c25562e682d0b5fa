import TypedTables.Proofs.Value.Likeness

/-!
# Walking along a path

A path leads from a value to what it holds: a key to the item under it, an index to the item at it,
and the segment `id` to the identifier of a record. Under a key that a mapping does not have stands
absence.
-/

namespace TypedTables.Value

/-- What a segment of a path leads to. -/
def step? (value segment : Value) : Option Value :=
  match value, segment with
  | .mapping entries, key | .frozenMapping entries, key =>
      some ((find? key entries).getD .undefined)
  | .list items, .integer (.ofNat index) | .tuple items, .integer (.ofNat index) => items[index]?
  | .record _ identifier, .text "id" => some identifier
  | _, _ => none

/-- What a path leads to. -/
def walk? (value : Value) : List Value → Option Value
  | [] => some value
  | segment :: rest => (value.step? segment).bind fun next => next.walk? rest

/-- In every mapping that a path leads to the keys are distinct. -/
def HasDistinctKeys (value : Value) : Prop :=
  ∀ path target entries, value.walk? path = some target → target.entries? = some entries →
    Distinct (entries.map Prod.fst)

theorem walk?_cons {value segment next : Value} (leads : value.step? segment = some next)
    (rest : List Value) : value.walk? (segment :: rest) = next.walk? rest := by
  rw [walk?, leads, Option.bind_some]

namespace HasDistinctKeys

variable {value : Value}

theorem entries {entries : List (Value × Value)} (distinct : value.HasDistinctKeys)
    (isEntries : value.entries? = some entries) : Distinct (entries.map Prod.fst) :=
  distinct [] value entries rfl isEntries

theorem step {segment next : Value} (distinct : value.HasDistinctKeys)
    (leads : value.step? segment = some next) : next.HasDistinctKeys := by
  intro path target entries walks isEntries
  exact distinct (segment :: path) target entries (by rw [walk?_cons leads, walks]) isEntries

/-- Keys are distinct throughout a value when they are in the value itself and wherever a segment
leads. -/
theorem intro
    (own : ∀ entries, value.entries? = some entries → Distinct (entries.map Prod.fst))
    (further : ∀ segment next, value.step? segment = some next → next.HasDistinctKeys) :
    value.HasDistinctKeys := by
  intro path target entries walks isEntries
  cases path with
  | nil =>
      cases walks
      exact own entries isEntries
  | cons segment rest =>
      obtain ⟨next, leads, remaining⟩ := Option.bind_eq_some_iff.mp walks
      exact further segment next leads rest target entries remaining isEntries

theorem of_no_step (ends : ∀ segment, value.step? segment = none) : value.HasDistinctKeys := by
  refine .intro (fun entries isEntries => ?_) fun segment next leads => ?_
  · cases value with
    | mapping | frozenMapping => cases ends .null
    | _ => cases isEntries
  · rw [ends] at leads
    cases leads

theorem list {items : List Value} (distinct : ∀ item ∈ items, item.HasDistinctKeys) :
    (Value.list items).HasDistinctKeys := by
  refine .intro (fun entries isEntries => by cases isEntries) fun segment next leads => ?_
  cases segment with
  | integer number =>
      cases number with
      | ofNat index => exact distinct next (List.mem_of_getElem? leads)
      | negSucc index => cases leads
  | _ => cases leads

theorem mapping {entries : List (Value × Value)} (own : Distinct (entries.map Prod.fst))
    (distinct : ∀ entry ∈ entries, entry.2.HasDistinctKeys) :
    (Value.mapping entries).HasDistinctKeys := by
  refine .intro (fun others isEntries => ?_) fun segment next leads => ?_
  · cases isEntries
    exact own
  · cases found : find? segment entries with
    | none =>
        rw [step?, found] at leads
        cases leads
        exact of_no_step fun _ => rfl
    | some item =>
        rw [step?, found] at leads
        cases leads
        obtain ⟨entry, first, rfl⟩ := Option.map_eq_some_iff.mp found
        exact distinct entry (List.mem_of_find?_eq_some first)

end HasDistinctKeys

theorem step?_of_entries {value : Value} {entries : List (Value × Value)}
    (isEntries : value.entries? = some entries) (key : Value) :
    value.step? key = some ((find? key entries).getD .undefined) := by
  cases value with
  | mapping | frozenMapping =>
      cases isEntries
      rfl
  | _ => cases isEntries

theorem step?_of_mem {value : Value} {entries : List (Value × Value)}
    (isEntries : value.entries? = some entries) (distinct : Distinct (entries.map Prod.fst))
    {entry : Value × Value} (member : entry ∈ entries) : value.step? entry.1 = some entry.2 := by
  rw [step?_of_entries isEntries, find?_of_mem distinct member, Option.getD_some]

theorem step?_of_items {value : Value} {items : List Value}
    (isItems : value.items? = some items) (index : Nat) :
    value.step? (.integer (Int.ofNat index)) = items[index]? := by
  cases value with
  | list | tuple =>
      cases isItems
      rfl
  | _ => cases isItems

end TypedTables.Value
