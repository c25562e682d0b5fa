import TypedTables.Proofs.Statement.Fields
import TypedTables.Proofs.Value.Refusals

/-!
# Faults of generation

Besides the faults of lowering, the statements that define the fields of a table end in few: a value
may have no literal, and options may be malformed.
-/

namespace TypedTables

namespace Clause

theorem endsIn_comment (comment : Value) :
    EndsIn Fault.IsRefusal (fun _ => True) (Clause.comment comment) := by
  unfold Clause.comment
  split
  · exact comment.endsIn_literal.map fun _ _ => trivial
  · trivial

theorem endsIn_default (value : Value) :
    EndsIn Fault.IsRefusal (fun _ => True) (Clause.default value) :=
  value.endsIn_literal.map fun _ _ => trivial

end Clause

theorem FieldDefinition.endsIn_text (definition : FieldDefinition) :
    EndsIn Fault.IsRefusal (fun _ => True) definition.text := by
  have supplied : EndsIn Fault.IsRefusal (fun _ => True) definition.defaultClause := by
    unfold defaultClause
    split
    · exact Clause.endsIn_default _
    · trivial
  exact supplied.bind fun _ _ _ => (Clause.endsIn_comment _).map fun _ _ => trivial

theorem GivenOptions.endsIn_read {α : Type} (name : String) (ofValue? : Value → Option α)
    (given : GivenOptions) :
    EndsIn (· = .malformedOptions) (fun _ => True) (given.read name ofValue?) := by
  unfold read
  split
  · trivial
  · trivial
  · split
    · trivial
    · rfl

theorem DefineOptions.endsIn_ofGiven (given : GivenOptions) :
    EndsIn (· = .malformedOptions) (fun _ => True) (ofGiven given) := by
  have named : EndsIn (· = .malformedOptions) (fun _ => True)
      (given.checkNames ["exists", "fields", "emit_defaults"]) := by
    unfold GivenOptions.checkNames
    split
    · trivial
    · rfl
  exact named.bind fun _ _ _ => (given.endsIn_read _ _).bind fun _ _ _ =>
    (given.endsIn_read _ _).bind fun _ _ _ => (given.endsIn_read _ _).bind fun _ _ _ => trivial

namespace Generator

variable (generator : Generator)

/-- The statements for the fields of a table end like the trees of the fields, unless a value has no
literal or the options are malformed. -/
theorem endsIn_defineFields {fault : Fault → Prop}
    (refusals : ∀ cause : Fault, cause.IsRefusal → fault cause) (malformed : fault .malformedOptions)
    (table : Table Schema) (options : Option DefineOptions) (overrides : GivenOptions)
    (trees : ∀ choices, ∀ field ∈ table.shape,
      EndsIn fault (fun _ => True) (generator.fieldTree table.name choices field).outcome) :
    EndsIn fault (fun _ => True) (generator.defineFields table options overrides).outcome := by
  have chosen : EndsIn fault (fun _ => True) (generator.defineChoices options overrides) := by
    refine ((DefineOptions.endsIn_ofGiven overrides).mono ?_ fun _ => id).map fun _ _ => trivial
    rintro cause rfl
    exact malformed
  simp only [defineFields, Traced.bind_eq, Traced.outcome_andThen]
  refine chosen.bind fun choices _ _ => ?_
  have defined : EndsIn fault (fun definitions => ∀ _ ∈ definitions, True)
      (generator.tableFields table choices).outcome :=
    generator.endsIn_tableFields choices table fun field member =>
      (trees choices field member).mono (fun _ => id) fun _ _ _ _ => trivial
  refine defined.bind fun definitions _ _ => ?_
  have texts : EndsIn Fault.IsRefusal (fun texts => ∀ _ ∈ texts, True)
      (written (definitions.map .defineField)).outcome := by
    refine .mapM fun statement member => ?_
    obtain ⟨definition, -, rfl⟩ := List.mem_map.mp member
    exact definition.endsIn_text
  exact texts.mono refusals fun _ _ => trivial

end Generator
end TypedTables
