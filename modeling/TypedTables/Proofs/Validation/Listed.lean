import TypedTables.Proofs.Validation.Intersections
import TypedTables.Proofs.Value.Strictness

/-!
# Listed values

A literal accepts a value that is listed, and an enumeration one that stands for a listed value.
Truth values and numbers are told apart in the value itself only: where a listed container has a
number, a container with a truth value in its place is accepted too. All other values are accepted
just when they are strictly equal to a listed one.
-/

namespace TypedTables

namespace Leaf

theorem literal_eq (values : List Value) (input : Value) :
    ∃ message, literal values input =
      if values.any fun expected => Value.sameLiteral expected input then .accept input
      else .reject input (unlisted values message input) :=
  ⟨_, rfl⟩

theorem enumeration_eq (values : List Value) (input : Value) :
    ∃ message, enumeration values input =
      if values.any fun expected => Value.sameLiteral expected input.represented then
        .accept input.represented
      else .reject input (unlisted values message input) := by
  refine ⟨s!"Invalid option: expected one of {shownChoices values}", ?_⟩
  cases input <;> rfl

end Leaf

namespace Validation

open Value

variable {scope : ParseScope} {limit : Nat} {input stands : Value}

theorem alone_of_lists (scope : ParseScope) (limit : Nat) {schema : Schema} {values : List Value}
    (lists : schema.form = .literal values ∧ stands = input ∨
      schema.form = .enumeration values ∧ stands = input.represented)
    (unrefined : schema.refinements = []) :
    ∃ message, (run scope (limit + 1)).alone schema input =
      .ok (if values.any fun expected => sameLiteral expected stands then .accept stands
        else .reject input (Leaf.unlisted values message input)) := by
  rw [alone_of_unrefined unrefined]
  rcases lists with ⟨isLiteral, same⟩ | ⟨isEnumeration, same⟩
  · obtain ⟨message, equal⟩ := Leaf.literal_eq values input
    rw [isLiteral, same]
    exact ⟨message, congrArg Except.ok equal⟩
  · obtain ⟨message, equal⟩ := Leaf.enumeration_eq values input
    rw [isEnumeration, same]
    exact ⟨message, congrArg Except.ok equal⟩

/-- A literal accepts a value, and an enumeration what a value stands for, just when it is strictly
equal to a listed value, or equal to one that it mixes with inside. Anything else is rejected, with
one issue that names the listed values. -/
theorem accepts_listed_iff {schema : Schema} {values : List Value}
    (lists : schema.form = .literal values ∧ stands = input ∨
      schema.form = .enumeration values ∧ stands = input.represented)
    (unrefined : schema.refinements = [])
    (listedFormed : ∀ expected ∈ values, expected.IsWellFormed) (formed : input.IsWellFormed) :
    (∀ output, (run scope (limit + 1)).accepted schema input = some output ↔
      output = stands ∧
        ((∃ expected ∈ values, equalsStrictly expected stands = true) ∨
          ∃ expected ∈ values, equals expected stands = true ∧ MixesInside expected stands)) ∧
      ((run scope (limit + 1)).accepted schema input = none →
        ∃ message, (run scope (limit + 1)).alone schema input =
          .ok (.reject input (Leaf.unlisted values message input))) := by
  have standsFormed : stands.IsWellFormed := by
    rcases lists with ⟨-, rfl⟩ | ⟨-, rfl⟩
    · exact formed
    · exact isWellFormed_represented formed
  have listed : (values.any fun expected => sameLiteral expected stands) = true ↔
      (∃ expected ∈ values, equalsStrictly expected stands = true) ∨
        ∃ expected ∈ values, equals expected stands = true ∧ MixesInside expected stands := by
    rw [List.any_eq_true, ← exists_or]
    refine exists_congr fun expected => ?_
    rw [← and_or_left]
    exact and_congr_right fun member => sameLiteral_iff (listedFormed expected member) standsFormed
  obtain ⟨message, settles⟩ := alone_of_lists scope limit lists unrefined
  rw [← listed, Validator.accepted, settles]
  cases (values.any fun expected => sameLiteral expected stands) with
  | true => simp [Payload.accept, Payload.isClean, eq_comm]
  | false =>
      refine ⟨fun output => ?_, fun _ => ⟨message, rfl⟩⟩
      simp [Payload.reject, Payload.isClean]

/-- A choice between a text and a truth value. -/
def choices : List Value := [.text "red", .boolean true]

theorem isWellFormed_choices : ∀ expected ∈ choices, expected.IsWellFormed := by
  simp only [choices, List.forall_mem_cons]
  exact ⟨isWellFormed_text _, isWellFormed_of_no_parts rfl rfl rfl, by simp⟩

/-- An enum member is accepted as its value where that is listed, and a number is no truth value. -/
theorem accepts_listed_choices :
    (run ⟨⟨[], none⟩, .synchronous⟩ 1).accepted (.anonymous (.enumeration choices))
        (.member 0 (.text "red")) = some (.text "red") ∧
      ∃ message, (run ⟨⟨[], none⟩, .synchronous⟩ 1).alone (.anonymous (.literal choices))
        (.integer 1) = .ok (.reject (.integer 1) (Leaf.unlisted choices message (.integer 1))) := by
  have member : (Value.member 0 (.text "red")).IsWellFormed :=
    isWellFormed_of_parts rfl rfl (List.forall_mem_singleton.mpr (isWellFormed_text _))
  have number : (Value.integer 1).IsWellFormed := isWellFormed_of_no_parts rfl rfl rfl
  constructor
  · refine ((accepts_listed_iff (.inr ⟨rfl, rfl⟩) rfl isWellFormed_choices member).1 _).mpr
      ⟨rfl, .inl ⟨.text "red", by simp [choices], by cbv⟩⟩
  · refine (accepts_listed_iff (.inl ⟨rfl, rfl⟩) rfl isWellFormed_choices number).2 ?_
    have unlisted : (choices.any fun expected => sameLiteral expected (.integer 1)) = false := by
      cbv
    obtain ⟨message, rejects⟩ := Leaf.literal_eq choices (.integer 1)
    change (if (Leaf.literal choices (.integer 1)).isClean then _ else _) = _
    rw [rejects, unlisted]
    rfl

/-- A literal of a list of a number accepts a list of a truth value, and no listed value is strictly
equal to that. -/
theorem not_accepts_listed_iff :
    (run ⟨⟨[], none⟩, .synchronous⟩ 1).accepted
        (.anonymous (.literal [.list [.integer 1]])) (.list [.boolean true]) =
      some (.list [.boolean true]) ∧
    ∀ expected ∈ [Value.list [.integer 1]],
      equalsStrictly expected (.list [.boolean true]) = false := by
  refine ⟨by cbv, ?_⟩
  simp only [List.forall_mem_cons]
  exact ⟨by cbv, by simp⟩

end Validation
end TypedTables
