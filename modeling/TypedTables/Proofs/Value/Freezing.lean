import TypedTables.Proofs.Effect.Settling
import TypedTables.Validation.Wrapper

/-!
# Unchangeable values

Making a value unchangeable turns a list into a tuple, and a mapping or a set into the other kind of
it. What the value holds stays the same, and so does what a user function makes of its truth. Listed
values tell a list from a tuple, and nothing else from its unchangeable kind.
-/

namespace TypedTables

open Wrapper (freeze)

namespace Value

theorem freeze_freeze (value : Value) : freeze (freeze value) = freeze value := by
  cases value <;> rfl

theorem isUndefined_freeze (value : Value) : (freeze value).isUndefined = value.isUndefined := by
  cases value <;> rfl

theorem isNull_freeze (value : Value) : (freeze value).isNull = value.isNull := by
  cases value <;> rfl

theorem isAwaitable_freeze (value : Value) : (freeze value).isAwaitable = value.isAwaitable := by
  cases value <;> rfl

theorem size?_freeze (value : Value) : (freeze value).size? = value.size? := by
  cases value <;> rfl

theorem isTruthy_freeze (value : Value) : (freeze value).isTruthy = value.isTruthy := by
  cases value <;> rfl

theorem sameLiteral_frozenMapping (expected : Value) (entries : List (Value × Value)) :
    sameLiteral expected (.frozenMapping entries) = sameLiteral expected (.mapping entries) := by
  cases expected <;> simp [sameLiteral, equals, entries?, members?, isBoolean, isNull, isUndefined,
    sameMagnitude, magnitude?]

theorem sameLiteral_frozenSet (expected : Value) (members : List Value) :
    sameLiteral expected (.frozenSet members) = sameLiteral expected (.set members) := by
  cases expected <;> simp [sameLiteral, equals, entries?, members?, isBoolean, isNull, isUndefined,
    sameMagnitude, magnitude?]

theorem exists_list_of_sameLiteral {expected : Value} {items : List Value}
    (same : sameLiteral expected (.list items) = true) : ∃ others, expected = .list others := by
  cases expected with
  | list others => exact ⟨others, rfl⟩
  | _ => simp [sameLiteral, equals, isBoolean, isNull, isUndefined, sameMagnitude, magnitude?,
      entries?, members?] at same

theorem exists_member_of_sameLiteral {expected : Value} {token : Nat} {inner : Value}
    (same : sameLiteral expected (.member token inner) = true) :
    ∃ other value, expected = .member other value := by
  cases expected with
  | member other value => exact ⟨other, value, rfl⟩
  | _ => simp [sameLiteral, equals, isBoolean, isNull, isUndefined, sameMagnitude, magnitude?,
      entries?, members?] at same

theorem isUndefined_of_sameLiteral {expected value : Value}
    (same : sameLiteral expected value = true) (absent : value.isUndefined = true) :
    expected.isUndefined = true := by
  cases value with
  | undefined =>
      cases expected with
      | undefined => rfl
      | _ => simp [sameLiteral, equals, isBoolean, isNull, entries?, members?, sameMagnitude,
          magnitude?] at same
  | _ => cases absent

theorem sameLiteral_freeze {expected value : Value} (noList : ∀ items, expected ≠ .list items)
    (same : sameLiteral expected value = true) : sameLiteral expected (freeze value) = true := by
  cases value with
  | list items =>
      obtain ⟨others, isList⟩ := exists_list_of_sameLiteral same
      exact absurd isList (noList others)
  | mapping entries => exact (sameLiteral_frozenMapping expected entries).trans same
  | set members => exact (sameLiteral_frozenSet expected members).trans same
  | _ => exact same

end Value

namespace Operation

theorem iterated_freeze (value : Value) : iterated (freeze value) = iterated value := by
  cases value <;> rfl

theorem ofIssues_freeze (wanted : String) (part : IssueCode → String → String) (value : Value) :
    ofIssues wanted part (freeze value) = ofIssues wanted part value := by
  rw [ofIssues, ofIssues, iterated_freeze]

theorem sizeOf_freeze {value : Value} {size : Nat} (sized : sizeOf value = .ok size) :
    sizeOf (freeze value) = .ok size := by
  unfold sizeOf at sized ⊢
  rw [Value.size?_freeze]
  split at sized
  · exact sized
  · cases sized

theorem doubled_freeze {value answer : Value} (answers : doubled value = .ok answer) :
    ∃ frozen, doubled (freeze value) = .ok frozen ∧ frozen.isTruthy = answer.isTruthy ∧
      frozen.isAwaitable = answer.isAwaitable := by
  cases value with
  | list items =>
      cases answers
      exact ⟨.tuple (items ++ items), rfl, rfl, rfl⟩
  | mapping | set => cases answers
  | _ => exact ⟨answer, answers, rfl, rfl⟩

theorem apply_freeze {operation : Operation} {value answer : Value}
    (answers : operation.apply value = .ok answer) :
    ∃ frozen, operation.apply (freeze value) = .ok frozen ∧
      frozen.isTruthy = answer.isTruthy ∧ frozen.isAwaitable = answer.isAwaitable := by
  cases operation with
  | fail => cases answers
  | accept | refuse | null | undefined | zero | wrap =>
      cases answers
      exact ⟨_, rfl, rfl, rfl⟩
  | same =>
      cases answers
      exact ⟨freeze value, rfl, Value.isTruthy_freeze value, Value.isAwaitable_freeze value⟩
  | truthy =>
      cases answers
      exact ⟨.boolean (freeze value).isTruthy, rfl, Value.isTruthy_freeze value, rfl⟩
  | long | length =>
      obtain ⟨size, sized, rfl⟩ := (except_map_eq_ok_iff _ _ _).mp answers
      exact ⟨_, (except_map_eq_ok_iff _ _ _).mpr ⟨size, sizeOf_freeze sized, rfl⟩, rfl, rfl⟩
  | double => exact doubled_freeze answers
  | codes | messages => exact ⟨answer, (ofIssues_freeze _ _ value).trans answers, rfl, rfl⟩
  | even | upper =>
      cases value with
      | list | mapping | set => cases answers
      | _ => exact ⟨answer, answers, rfl, rfl⟩

end Operation
end TypedTables
