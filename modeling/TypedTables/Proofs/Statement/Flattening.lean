import TypedTables.Proofs.FieldType.Collecting
import TypedTables.Proofs.Statement.Paths

/-!
# The order of field definitions

The fields of a table are defined depth first. Each field of the table has its block of definitions:
its own, and then the blocks of the children that lowering it kept, in their order and without
anything between them. So a definition stands right after the block of the sibling before it, or right
after its parent when it is the first child, and its path leads further than the path of the parent.
-/

namespace TypedTables

theorem Schema.exists_path_of_lowered {schema : Schema} {scope : LoweringScope}
    {ancestors : List Ancestor} {lowered : LoweredField}
    (lowers : (schema.lowered scope ancestors).outcome = .ok lowered) {child : ChildField}
    (member : child ∈ lowered.children) : ∃ name rest, child.path = name :: rest := by
  obtain ⟨outcome, found, below, same⟩ :=
    Lowering.Collects.enter scope schema ⟨ancestors, [], true⟩
  have ends : Lowering.enter scope schema (.ofField ancestors) =
      (outcome, LoweringPlace.holding ⟨ancestors, [], true⟩ (Collected.nothing.adding found)) :=
    same .nothing
  simp only [Schema.lowered, ends] at lowers
  obtain ⟨-, -, rfl⟩ := (except_map_eq_ok_iff _ _ _).mp lowers
  exact below child member

namespace Generator

variable (generator : Generator) (table : String) (choices : DefineChoices)

mutual

/-- The definitions of a field and of everything below it: first its own, then the blocks of the
children that lowering it kept. -/
inductive IsBlock : List String → Schema → List Ancestor → List FieldDefinition → Prop
  | field {path : List String} {schema : Schema} {ancestors : List Ancestor} {lowered : LoweredField}
      {below : List FieldDefinition}
      (lowers : (schema.lowered ⟨generator.environment, [table]⟩ ancestors).outcome = .ok lowered)
      (children : AreBlocks path lowered.children below) :
      IsBlock path schema ancestors (fieldDefinition table choices path schema lowered :: below)

/-- The blocks of children of a field, one right after another. -/
inductive AreBlocks : List String → List ChildField → List FieldDefinition → Prop
  | none {path : List String} : AreBlocks path [] []
  | child {path : List String} {child : ChildField} {children : List ChildField}
      {block rest : List FieldDefinition}
      (first : IsBlock (path ++ child.path) child.schema child.ancestors block)
      (others : AreBlocks path children rest) : AreBlocks path (child :: children) (block ++ rest)

end

variable {generator table choices}

theorem AreBlocks.of_forall₂ {path : List String} {children : List ChildField}
    {blocks : List (List FieldDefinition)}
    (each : List.Forall₂ (fun child => generator.IsBlock table choices (path ++ child.path)
      child.schema child.ancestors) children blocks) :
    generator.AreBlocks table choices path children blocks.flatten := by
  induction each with
  | nil => exact .none
  | cons first _ ih => exact .child first ih

theorem isBlock_fieldDefinitions (levels : Nat) (path : List String) (schema : Schema)
    (ancestors : List Ancestor) :
    EndsIn (fun _ => True) (generator.IsBlock table choices path schema ancestors)
      (generator.fieldDefinitions table choices levels path schema ancestors).outcome := by
  induction levels generalizing path schema ancestors with
  | zero => trivial
  | succ levels ih =>
      rw [outcome_fieldDefinitions]
      refine (EndsIn.anyhow _).bind fun lowered isLowered _ => ?_
      refine (EndsIn.anyhow _).bind fun _ _ _ => ?_
      have below : EndsIn (fun _ => True)
          (List.Forall₂ (fun child => generator.IsBlock table choices (path ++ child.path)
            child.schema child.ancestors) lowered.children)
          (lowered.children.mapM fun child => (generator.fieldDefinitions table choices levels
            (path ++ child.path) child.schema child.ancestors).outcome) :=
        .mapM_forall₂ fun child _ => ih (path ++ child.path) child.schema child.ancestors
      exact below.map fun blocks areBlocks => .field isLowered (.of_forall₂ areBlocks)

mutual

theorem IsBlock.exists_head {path : List String} {schema : Schema} {ancestors : List Ancestor}
    {block : List FieldDefinition} :
    generator.IsBlock table choices path schema ancestors block →
      ∃ head below, block = head :: below ∧ head.path = path ∧
        ∀ definition ∈ below, ∃ name rest, definition.path = path ++ name :: rest
  | .field lowers children =>
      ⟨_, _, rfl, rfl, children.exists_path fun _ => Schema.exists_path_of_lowered lowers⟩

theorem AreBlocks.exists_path {path : List String} {children : List ChildField}
    {definitions : List FieldDefinition} :
    generator.AreBlocks table choices path children definitions →
      (∀ child ∈ children, ∃ name rest, child.path = name :: rest) →
      ∀ definition ∈ definitions, ∃ name rest, definition.path = path ++ name :: rest
  | .none, _ => by simp
  | .child first others, further => by
      -- The path of the child leads further than the one of the field, and its block further still.
      obtain ⟨name, rest, isPath⟩ := further _ List.mem_cons_self
      obtain ⟨head, below, rfl, headPath, belowPath⟩ := first.exists_head
      rw [isPath] at headPath belowPath
      intro definition member
      rcases List.mem_append.mp member with inFirst | inOthers
      · rcases List.mem_cons.mp inFirst with rfl | isBelow
        · exact ⟨name, rest, headPath⟩
        · obtain ⟨next, more, longer⟩ := belowPath definition isBelow
          exact ⟨name, rest ++ next :: more, by rw [longer]; simp⟩
      · exact others.exists_path (fun child member => further child (List.mem_cons_of_mem _ member))
          definition inOthers

end

variable (generator)

/-- The definitions of the fields of a table are its blocks, in the order of the fields. -/
theorem areBlocks_tableFields (table : Table Schema) (choices : DefineChoices) :
    EndsIn (fun _ => True)
      (fun definitions => ∃ blocks,
        List.Forall₂ (fun field => generator.IsBlock table.name choices [field.1]
          (fieldSchema field) []) table.shape blocks ∧ definitions = blocks.flatten)
      (generator.tableFields table choices).outcome := by
  have each : EndsIn (fun _ => True)
      (List.Forall₂ (fun field => generator.IsBlock table.name choices [field.1]
        (fieldSchema field) []) table.shape)
      (table.shape.mapM fun field => (generator.fieldTree table.name choices field).outcome) :=
    .mapM_forall₂ fun field _ => isBlock_fieldDefinitions _ [field.1] (fieldSchema field) []
  rw [outcome_tableFields]
  exact each.map fun blocks areBlocks => ⟨blocks, areBlocks, rfl⟩

/-- The statements that define the fields of a table come in one block for each field, in the order of
the fields. A block is made of the statement of its field and then, right after one another, the blocks
of the children that were kept when the field was lowered, and so on downwards; everything in it after
the first statement has a path that leads further. -/
theorem defineFields_flattens (table : Table Schema) (options : Option DefineOptions)
    (overrides : GivenOptions) {statements : List String}
    (ends : (generator.defineFields table options overrides).outcome = .ok statements) :
    ∃ choices blocks, generator.defineChoices options overrides = .ok choices ∧
      List.Forall₂ (fun field block =>
        generator.IsBlock table.name choices [field.1] (fieldSchema field) [] block ∧
          ∃ head below, block = head :: below ∧ head.path = [field.1] ∧
            ∀ definition ∈ below, ∃ name rest, definition.path = [field.1] ++ name :: rest)
        table.shape blocks ∧
      blocks.flatten.mapM FieldDefinition.text = .ok statements := by
  rw [outcome_defineFields] at ends
  obtain ⟨choices, chosen, ends⟩ := (except_bind_eq_ok_iff _ _ _).mp ends
  obtain ⟨definitions, defined, writes⟩ := (except_bind_eq_ok_iff _ _ _).mp ends
  have isFlat := generator.areBlocks_tableFields table choices
  rw [defined] at isFlat
  obtain ⟨blocks, areBlocks, rfl⟩ := isFlat
  exact ⟨choices, blocks, chosen,
    areBlocks.imp fun field block isBlock => ⟨isBlock, isBlock.exists_head⟩, writes⟩

/-- People with addresses that lie in a list, and in each of them a list of streets. -/
def addressesTable : Table Schema :=
  personTable (.anonymous (.array (addressSchema
    (.anonymous (.array (addressSchema (.anonymous (.text Schema.freeText))) none none))) none none))

/-- The identifier is a block of its own; the addresses come with everything in them. -/
theorem defineFields_addressesTable :
    let statements := ["DEFINE FIELD id ON TABLE person TYPE any;",
      "DEFINE FIELD address ON TABLE person TYPE array<object>;",
      "DEFINE FIELD address.*.street ON TABLE person TYPE array<object>;",
      "DEFINE FIELD address.*.street.*.street ON TABLE person TYPE string;"]
    (plain.defineFields addressesTable none []).outcome = .ok statements ∧
      ∃ choices blocks, plain.defineChoices none [] = .ok choices ∧
        List.Forall₂ (fun field block =>
          plain.IsBlock addressesTable.name choices [field.1] (fieldSchema field) [] block ∧
            ∃ head below, block = head :: below ∧ head.path = [field.1] ∧
              ∀ definition ∈ below, ∃ name rest, definition.path = [field.1] ++ name :: rest)
          addressesTable.shape blocks ∧
        blocks.flatten.mapM FieldDefinition.text = .ok statements := by
  intro statements
  have ends : (plain.defineFields addressesTable none []).outcome = .ok statements := by
    decide +kernel
  exact ⟨ends, plain.defineFields_flattens addressesTable none [] ends⟩

end Generator
end TypedTables
