import TypedTables.Proofs.FieldType.Terms
import TypedTables.Proofs.Validation.Joining
import TypedTables.Statement.Generation

/-!
# Trees of field definitions

The definitions of a field and of everything below it form a tree: a field is lowered, and each
property that lowering kept is a field below it. What holds of a field and is inherited by the
fields below it holds of the whole tree.
-/

namespace TypedTables

@[simp] theorem Traced.outcome_inBlock {α : Type} (change : ContextChange) (work : Traced α) :
    (Traced.inBlock change work).outcome = work.outcome := rfl

theorem Schema.holds_describedIdentifier (schema : Schema) :
    schema.Holds schema.describedIdentifier := by
  fun_induction describedIdentifier schema with
  | case1 identity refinements description inner ih => exact .head (List.mem_singleton_self _) ih
  | case2 => exact .single (List.mem_singleton_self _)
  | case3 => exact .refl

namespace Generator

variable (generator : Generator) (table : String) (choices : DefineChoices)

/-- What is lowered for a field of a table: of a reference to the record itself, what describes the
identifier. -/
def fieldSchema (field : String × Schema) : Schema :=
  if field.1 = "id" then field.2.describedIdentifier else field.2

theorem holds_fieldSchema (field : String × Schema) : field.2.Holds (fieldSchema field) := by
  unfold fieldSchema
  split
  · exact field.2.holds_describedIdentifier
  · exact .refl

/-- A field is lowered and written, and then its children are defined. -/
theorem outcome_fieldDefinitions (levels : Nat) (path : List String) (schema : Schema)
    (ancestors : List Ancestor) :
    (generator.fieldDefinitions table choices (levels + 1) path schema ancestors).outcome =
      (schema.lowered ⟨generator.environment, [table]⟩ ancestors).outcome.bind fun lowered =>
        (fieldDefinition table choices path schema lowered).text.bind fun _ =>
          (lowered.children.mapM fun child =>
            (generator.fieldDefinitions table choices levels (path ++ child.path) child.schema
              child.ancestors).outcome).map fun below =>
            fieldDefinition table choices path schema lowered :: below.flatten := by
  rw [fieldDefinitions]
  simp only [Traced.bind_eq, Traced.outcome_andThen, Traced.outcome_inBlock]
  congr 1
  funext lowered
  simp only [Traced.outcome_ofExcept]
  congr 1
  funext text
  simp only [Traced.notify, Traced.outcome_emit, Except.bind, Traced.outcome_forEach]
  rfl

/-- What holds of a field, and of the fields below each field that it holds of, decides how the
definitions of the tree end. -/
theorem endsIn_fieldDefinitions {fault : Fault → Prop} {good : FieldDefinition → Prop}
    (held : Nat → List String → List Ancestor → Schema → Prop)
    (exhausted : ∀ path ancestors schema, held 0 path ancestors schema → fault .tooDeep)
    (unwritten : ∀ (definition : FieldDefinition) cause, definition.text = .error cause →
      fault cause)
    (lowers : ∀ levels path ancestors schema, held (levels + 1) path ancestors schema →
      EndsIn fault
        (fun lowered => good (fieldDefinition table choices path schema lowered) ∧
          ∀ child ∈ lowered.children,
            held levels (path ++ child.path) child.ancestors child.schema)
        (schema.lowered ⟨generator.environment, [table]⟩ ancestors).outcome)
    {levels : Nat} {path : List String} {ancestors : List Ancestor} {schema : Schema}
    (holds : held levels path ancestors schema) :
    EndsIn fault (fun definitions => ∀ definition ∈ definitions, good definition)
      (generator.fieldDefinitions table choices levels path schema ancestors).outcome := by
  induction levels generalizing path ancestors schema with
  | zero => exact exhausted path ancestors schema holds
  | succ levels ih =>
      rw [outcome_fieldDefinitions]
      refine (lowers levels path ancestors schema holds).bind fun lowered _ given => ?_
      obtain ⟨isGood, inherited⟩ := given
      have written : EndsIn fault (fun _ => True)
          (fieldDefinition table choices path schema lowered).text := by
        cases text : (fieldDefinition table choices path schema lowered).text with
        | error cause => exact unwritten _ cause text
        | ok characters => trivial
      refine written.bind fun _ _ _ => ?_
      have below : EndsIn fault (fun trees => ∀ tree ∈ trees, ∀ definition ∈ tree, good definition)
          (lowered.children.mapM fun child => (generator.fieldDefinitions table choices levels
            (path ++ child.path) child.schema child.ancestors).outcome) :=
        .mapM fun child member => ih (inherited child member)
      refine below.map fun trees goodTrees definition member => ?_
      rcases List.mem_cons.mp member with rfl | isBelow
      · exact isGood
      · obtain ⟨tree, isTree, inTree⟩ := List.mem_flatten.mp isBelow
        exact goodTrees tree isTree definition inTree

theorem outcome_tableFields (table : Table Schema) :
    (generator.tableFields table choices).outcome =
      (table.shape.mapM fun field => (generator.fieldTree table.name choices field).outcome).map
        List.flatten := by
  simp only [tableFields, Traced.bind_eq, Traced.outcome_andThen, Traced.outcome_forEach,
    Traced.pure_eq]
  rfl

theorem outcome_defineFields (table : Table Schema) (options : Option DefineOptions)
    (overrides : GivenOptions) :
    (generator.defineFields table options overrides).outcome =
      (generator.defineChoices options overrides).bind fun choices =>
        (generator.tableFields table choices).outcome.bind fun definitions =>
          definitions.mapM FieldDefinition.text := by
  have texts (definitions : List FieldDefinition) :
      (written (definitions.map .defineField)).outcome =
        definitions.mapM FieldDefinition.text := List.mapM_map ..
  simp only [defineFields, Traced.bind_eq, Traced.outcome_andThen, Traced.outcome_ofExcept, texts]

theorem endsIn_tableFields {fault : Fault → Prop} {good : FieldDefinition → Prop}
    (table : Table Schema)
    (trees : ∀ field ∈ table.shape,
      EndsIn fault (fun definitions => ∀ definition ∈ definitions, good definition)
        (generator.fieldTree table.name choices field).outcome) :
    EndsIn fault (fun definitions => ∀ definition ∈ definitions, good definition)
      (generator.tableFields table choices).outcome := by
  rw [outcome_tableFields]
  refine (EndsIn.mapM trees).map fun found goodTrees definition member => ?_
  obtain ⟨tree, isTree, inTree⟩ := List.mem_flatten.mp member
  exact goodTrees tree isTree definition inTree

end Generator
end TypedTables
