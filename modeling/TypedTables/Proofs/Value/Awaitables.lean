import TypedTables.Proofs.Effect.Settling
import TypedTables.Proofs.Value.Likeness
import TypedTables.Validation.Merge
import TypedTables.Value.Function

/-!
# Values without awaitables

A value holds no awaitable when it is none and none is among its items, entries, members or parts.
Whatever is computed from such values holds none either: the answers of operations, merged values,
and collections that are put together from them. A function held as data is not called and counts
as holding nothing.
-/

namespace TypedTables.Value

mutual

/-- The value is not awaitable, and nothing in it is. -/
def HoldsNoAwaitable : Value → Prop
  | .awaitable .. => False
  | .list items | .tuple items | .set items | .frozenSet items => ItemsHoldNoAwaitable items
  | .mapping entries | .frozenMapping entries => EntriesHoldNoAwaitable entries
  | .record _ identifier => identifier.HoldsNoAwaitable
  | .member _ value => value.HoldsNoAwaitable
  | _ => True

def ItemsHoldNoAwaitable : List Value → Prop
  | [] => True
  | item :: rest => item.HoldsNoAwaitable ∧ ItemsHoldNoAwaitable rest

def EntriesHoldNoAwaitable : List (Value × Value) → Prop
  | [] => True
  | (key, item) :: rest =>
      key.HoldsNoAwaitable ∧ item.HoldsNoAwaitable ∧ EntriesHoldNoAwaitable rest

end

theorem itemsHoldNoAwaitable_iff (items : List Value) :
    ItemsHoldNoAwaitable items ↔ ∀ item ∈ items, item.HoldsNoAwaitable := by
  induction items with
  | nil => simp [ItemsHoldNoAwaitable]
  | cons item rest ih => simp [ItemsHoldNoAwaitable, ih]

theorem entriesHoldNoAwaitable_iff (entries : List (Value × Value)) :
    EntriesHoldNoAwaitable entries ↔
      ∀ entry ∈ entries, entry.1.HoldsNoAwaitable ∧ entry.2.HoldsNoAwaitable := by
  induction entries with
  | nil => simp [EntriesHoldNoAwaitable]
  | cons entry rest ih => simp [EntriesHoldNoAwaitable, ih, and_assoc]

theorem HoldsNoAwaitable.isAwaitable {value : Value} (holds : value.HoldsNoAwaitable) :
    value.isAwaitable = false := by
  cases value with
  | awaitable token outcome => exact (holds : False).elim
  | _ => rfl

theorem HoldsNoAwaitable.items {value : Value} {items : List Value}
    (holds : value.HoldsNoAwaitable) (isItems : value.items? = some items) :
    ∀ item ∈ items, item.HoldsNoAwaitable := by
  cases value with
  | list others | tuple others =>
      cases isItems
      exact (itemsHoldNoAwaitable_iff _).mp holds
  | _ => cases isItems

theorem HoldsNoAwaitable.members {value : Value} {members : List Value}
    (holds : value.HoldsNoAwaitable) (isMembers : value.members? = some members) :
    ∀ member ∈ members, member.HoldsNoAwaitable := by
  cases value with
  | set others | frozenSet others =>
      cases isMembers
      exact (itemsHoldNoAwaitable_iff _).mp holds
  | _ => cases isMembers

theorem HoldsNoAwaitable.entries {value : Value} {entries : List (Value × Value)}
    (holds : value.HoldsNoAwaitable) (isEntries : value.entries? = some entries) :
    ∀ entry ∈ entries, entry.1.HoldsNoAwaitable ∧ entry.2.HoldsNoAwaitable := by
  cases value with
  | mapping others | frozenMapping others =>
      cases isEntries
      exact (entriesHoldNoAwaitable_iff _).mp holds
  | _ => cases isEntries

theorem holdsNoAwaitable_list {items : List Value}
    (holds : ∀ item ∈ items, item.HoldsNoAwaitable) : (Value.list items).HoldsNoAwaitable :=
  (itemsHoldNoAwaitable_iff items).mpr holds

theorem holdsNoAwaitable_set {members : List Value}
    (holds : ∀ member ∈ members, member.HoldsNoAwaitable) : (Value.set members).HoldsNoAwaitable :=
  (itemsHoldNoAwaitable_iff members).mpr holds

theorem holdsNoAwaitable_mapping {entries : List (Value × Value)}
    (holds : ∀ entry ∈ entries, entry.1.HoldsNoAwaitable ∧ entry.2.HoldsNoAwaitable) :
    (Value.mapping entries).HoldsNoAwaitable :=
  (entriesHoldNoAwaitable_iff entries).mpr holds

mutual

/-- A merged value holds no awaitable when neither side does. The induction follows the left
side, which merging takes apart. -/
theorem holdsNoAwaitable_merge (left right : Value) {merged : Value}
    (holdsLeft : left.HoldsNoAwaitable) (holdsRight : right.HoldsNoAwaitable)
    (merges : merge left right = some merged) : merged.HoldsNoAwaitable := by
  rw [merge.eq_def] at merges
  by_cases same : alike left right = true
  · rw [if_pos same] at merges
    cases merges
    exact holdsLeft
  · rw [if_neg same] at merges
    cases left with
    | mapping entries | frozenMapping entries =>
        simp only at merges
        cases others : right.entries? with
        | none => simp [others] at merges
        | some otherEntries =>
            rw [others] at merges
            obtain ⟨mergedEntries, mergesEntries, rfl⟩ := Option.map_eq_some_iff.mp merges
            have holdsEntries := (entriesHoldNoAwaitable_iff entries).mp holdsLeft
            have holdsOthers := holdsRight.entries others
            apply holdsNoAwaitable_mapping
            intro entry member
            rcases List.mem_append.mp member with inMerged | outside
            · exact holdsNoAwaitable_mergeEntries entries otherEntries holdsEntries holdsOthers
                mergesEntries entry inMerged
            · exact holdsOthers entry ((List.mem_filter.mp outside).1)
    | list items =>
        simp only at merges
        cases right with
        | list others =>
            obtain ⟨mergedItems, mergesItems, rfl⟩ := Option.map_eq_some_iff.mp merges
            apply holdsNoAwaitable_list
            exact holdsNoAwaitable_mergeItems items others
              ((itemsHoldNoAwaitable_iff items).mp holdsLeft)
              ((itemsHoldNoAwaitable_iff others).mp holdsRight) mergesItems
        | _ => simp at merges
    | _ => simp at merges
termination_by structural left

theorem holdsNoAwaitable_mergeEntries (entries others : List (Value × Value))
    {merged : List (Value × Value)}
    (holds : ∀ entry ∈ entries, entry.1.HoldsNoAwaitable ∧ entry.2.HoldsNoAwaitable)
    (holdsOthers : ∀ entry ∈ others, entry.1.HoldsNoAwaitable ∧ entry.2.HoldsNoAwaitable)
    (merges : mergeEntries entries others = some merged) :
    ∀ entry ∈ merged, entry.1.HoldsNoAwaitable ∧ entry.2.HoldsNoAwaitable := by
  cases entries with
  | nil =>
      cases merges
      simp
  | cons first rest =>
      rcases first with ⟨key, item⟩
      have holdsFirst := holds (key, item) (by simp)
      have holdsRest : ∀ entry ∈ rest, entry.1.HoldsNoAwaitable ∧ entry.2.HoldsNoAwaitable :=
        fun entry member => holds entry (by simp [member])
      rw [mergeEntries] at merges
      cases found : find? key others with
      | none =>
          rw [found] at merges
          obtain ⟨mergedRest, mergesRest, rfl⟩ := Option.map_eq_some_iff.mp merges
          have rests := holdsNoAwaitable_mergeEntries rest others holdsRest holdsOthers mergesRest
          intro entry member
          rcases List.mem_cons.mp member with rfl | later
          · exact holdsFirst
          · exact rests entry later
      | some other =>
          rw [found] at merges
          obtain ⟨mergedItem, mergesItem, remaining⟩ := Option.bind_eq_some_iff.mp merges
          obtain ⟨mergedRest, mergesRest, rfl⟩ := Option.map_eq_some_iff.mp remaining
          obtain ⟨otherEntry, present, rfl⟩ := mem_of_find? found
          have holdsItem := holdsNoAwaitable_merge item otherEntry.2 holdsFirst.2
            (holdsOthers otherEntry present).2 mergesItem
          have rests := holdsNoAwaitable_mergeEntries rest others holdsRest holdsOthers mergesRest
          intro entry member
          rcases List.mem_cons.mp member with rfl | later
          · exact ⟨holdsFirst.1, holdsItem⟩
          · exact rests entry later
termination_by structural entries

theorem holdsNoAwaitable_mergeItems (items others : List Value) {merged : List Value}
    (holds : ∀ item ∈ items, item.HoldsNoAwaitable)
    (holdsOthers : ∀ item ∈ others, item.HoldsNoAwaitable)
    (merges : mergeItems items others = some merged) :
    ∀ item ∈ merged, item.HoldsNoAwaitable := by
  cases items with
  | nil =>
      cases others with
      | nil =>
          cases merges
          simp
      | cons other rest => cases merges
  | cons item rest =>
      cases others with
      | nil => cases merges
      | cons other otherRest =>
          rw [mergeItems] at merges
          obtain ⟨mergedItem, mergesItem, remaining⟩ := Option.bind_eq_some_iff.mp merges
          obtain ⟨mergedRest, mergesRest, rfl⟩ := Option.map_eq_some_iff.mp remaining
          have holdsItem := holdsNoAwaitable_merge item other (holds item (by simp))
            (holdsOthers other (by simp)) mergesItem
          have rests := holdsNoAwaitable_mergeItems rest otherRest
            (fun next member => holds next (by simp [member]))
            (fun next member => holdsOthers next (by simp [member])) mergesRest
          intro next member
          rcases List.mem_cons.mp member with rfl | later
          · exact holdsItem
          · exact rests next later
termination_by structural items

end

end TypedTables.Value

namespace TypedTables.Operation

open Value

theorem holdsNoAwaitable_ofIssues {wanted : String} {part : IssueCode → String → String}
    {value answer : Value} (answers : ofIssues wanted part value = .ok answer) :
    answer.HoldsNoAwaitable := by
  unfold ofIssues at answers
  obtain ⟨items, -, remaining⟩ := (except_bind_eq_ok_iff _ _ _).mp answers
  obtain ⟨parts, traversed, equal⟩ := (except_bind_eq_ok_iff _ _ _).mp remaining
  cases equal
  apply holdsNoAwaitable_list
  intro text member
  obtain ⟨item, -, shown⟩ := exists_mem_of_mapM_eq_ok traversed member
  cases item with
  | issue code message =>
      cases shown
      trivial
  | _ => cases shown

theorem holdsNoAwaitable_apply {operation : Operation} {value answer : Value}
    (holds : value.HoldsNoAwaitable) (applies : operation.apply value = .ok answer) :
    answer.HoldsNoAwaitable := by
  cases operation with
  | same =>
      cases applies
      exact holds
  | wrap =>
      cases applies
      exact holdsNoAwaitable_list (by simpa using holds)
  | even | long | length =>
      obtain ⟨result, -, rfl⟩ := (except_map_eq_ok_iff _ _ _).mp applies
      trivial
  | upper =>
      cases value <;> cases applies
      all_goals trivial
  | double =>
      cases value with
      | list items | tuple items =>
          cases applies
          have each := (itemsHoldNoAwaitable_iff items).mp holds
          apply (itemsHoldNoAwaitable_iff _).mpr
          intro item member
          exact each item (by simpa using member)
      | _ =>
          cases applies
          try trivial
  | codes | messages => exact holdsNoAwaitable_ofIssues applies
  | fail => cases applies
  | _ =>
      cases applies
      trivial

end TypedTables.Operation
