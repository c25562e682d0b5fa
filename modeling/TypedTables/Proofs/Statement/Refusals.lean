import TypedTables.Proofs.FieldType.Positions
import TypedTables.Proofs.Statement.Fields

/-!
# What no defined field holds

Where the fields of a table are defined, everything at a position that lowering looks at has been
lowered, each child on its own level; so no kind that lowering refuses is at any of them.
-/

namespace TypedTables

def commentSchema : Schema :=
  { identity := some 0, refinements := [], description := .null
    form := .object [("texts", .anonymous (.record (.anonymous (.text Schema.freeText))
      (.anonymous (.text Schema.freeText)))),
      ("below", .anonymous (.array (.anonymous (.lazily (.definition "comment"))) none none))] none }

def postTable : Table Schema :=
  { Table.named "post" .normal with
    declared := [("comment", .anonymous (.optional (.anonymous (.lazily (.definition "comment")))))] }

namespace Generator

variable (generator : Generator)

/-- A field whose definitions succeed, with those of everything below it, is admitted. -/
theorem isAdmitted_of_fieldDefinitions (table : String) (choices : DefineChoices) {levels : Nat}
    {path : List String} {schema : Schema} {ancestors : List Ancestor}
    {definitions : List FieldDefinition}
    (defines : (generator.fieldDefinitions table choices levels path schema ancestors).outcome =
      .ok definitions) :
    schema.IsAdmitted generator.environment [table] ancestors := by
  induction levels generalizing path schema ancestors definitions with
  | zero => cases defines
  | succ levels ih =>
      rw [outcome_fieldDefinitions, except_bind_eq_ok_iff] at defines
      obtain ⟨lowered, lowers, continues⟩ := defines
      obtain ⟨text, -, finishes⟩ := (except_bind_eq_ok_iff _ _ _).mp continues
      obtain ⟨below, each, -⟩ := (except_map_eq_ok_iff _ _ _).mp finishes
      refine Schema.isAdmitted_of_lowered lowers fun child member => ?_
      obtain ⟨tree, defined⟩ := exists_ok_of_mapM_eq_ok each member
      exact ih defined

/-- No kind that lowering refuses is at a position below a field of a table whose fields are
defined. -/
theorem not_isRefused_of_defineFields {table : Table Schema} {options : Option DefineOptions}
    {overrides : GivenOptions} {texts : List String}
    (defines : (generator.defineFields table options overrides).outcome = .ok texts)
    {field : String × Schema} (member : field ∈ table.shape) {target : Schema}
    (lowers : (fieldSchema field).Lowers generator.environment [table.name] [] target) :
    target.kind.isRefused = false := by
  simp only [defineFields, tableFields, Traced.bind_eq, Traced.outcome_andThen,
    Traced.outcome_ofExcept, except_bind_eq_ok_iff] at defines
  obtain ⟨choices, -, definitions, ⟨trees, defined, -⟩, -⟩ := defines
  rw [Traced.outcome_forEach] at defined
  obtain ⟨tree, isTree⟩ := exists_ok_of_mapM_eq_ok defined member
  exact generator.isAdmitted_of_fieldDefinitions table.name choices isTree target lowers

/-- A generator that knows a definition which leads back to itself. -/
def commenting : Generator where
  environment := ⟨[("comment", commentSchema)], none⟩
  defaults := .builtIn

theorem defineFields_postTable :
    (commenting.defineFields postTable none []).outcome =
      .ok ["DEFINE FIELD id ON TABLE post TYPE any;",
        "DEFINE FIELD comment ON TABLE post TYPE object | none;",
        "DEFINE FIELD comment.texts ON TABLE post TYPE object;",
        "DEFINE FIELD comment.texts.* ON TABLE post TYPE string;",
        "DEFINE FIELD comment.below ON TABLE post TYPE array;"] := by
  decide +kernel

/-- What a lazy schema stands for is at a position, and so are the keys below it. -/
theorem lowers_comment_texts :
    (Schema.anonymous (.optional (.anonymous (.lazily (.definition "comment"))))).Lowers
      commenting.environment ["post"] [] (.anonymous (.text Schema.freeText)) := by
  have resolves : commenting.environment.resolve (.definition "comment") = .ok commentSchema := rfl
  have isNoTable (table : Table Schema) (isTable : commentSchema.table? = some table) :
      table.name ∉ ["post"] := by cases isTable
  exact .part (List.mem_singleton.mpr rfl) (.resolved rfl resolves rfl isNoTable
    (.part List.mem_cons_self (.part List.mem_cons_self .here)))

/-- No key of the texts of a comment is refused. -/
theorem not_isRefused_comment :
    (commenting.defineFields postTable none []).outcome.isOk = true ∧
      (Schema.anonymous (.text Schema.freeText)).kind.isRefused = false :=
  ⟨by rw [defineFields_postTable]; rfl,
    commenting.not_isRefused_of_defineFields defineFields_postTable
      (List.mem_cons_of_mem _ List.mem_cons_self) lowers_comment_texts⟩

def symbolicTable : Table Schema :=
  { Table.named "likes" .relation with declared := [("in", .anonymous .symbol)] }

/-- A lazy schema whose target is a symbol that is given the identity of an earlier schema. -/
def lateSymbol : Schema :=
  .anonymous (.lazily (.template
    { identity := some 7, refinements := [], description := .null, form := .symbol }))

/-- What is built for a field, and is gone when its property is lowered. -/
def earlyHolder : Schema :=
  { identity := some 7, refinements := [], description := .null
    form := .readonly (.anonymous (.object [("x", lateSymbol)] none)) }

def recycledTable : Table Schema :=
  { Table.named "note" .normal with
    declared := [("f", .anonymous (.lazily (.template earlyHolder)))] }

theorem defineFields_recycledTable :
    (commenting.defineFields recycledTable none []).outcome =
      .ok ["DEFINE FIELD id ON TABLE note TYPE any;", "DEFINE FIELD f ON TABLE note TYPE object;",
        "DEFINE FIELD f.x ON TABLE note TYPE any;"] := by
  decide +kernel

/-- A declared field that gives way to an end of the relation is never lowered, and neither is a
schema that is built with the identity of an ancestor that is gone: fields are defined all the same,
whatever kinds these are of. -/
theorem not_defineFields_refuses :
    (¬∀ (generator : Generator) (table : Table Schema) (texts : List String),
      (generator.defineFields table none []).outcome = .ok texts →
        ∀ field ∈ table.declared, field.2.kind.isRefused = false) ∧
    ¬∀ (generator : Generator) (table : Table Schema) (texts : List String)
      (field : String × Schema) (schema resolved : Schema) (target : LazyTarget Schema),
      (generator.defineFields table none []).outcome = .ok texts → field ∈ table.shape →
        (fieldSchema field).Lowers generator.environment [table.name] [] schema →
          schema.form = .lazily target → generator.environment.resolve target = .ok resolved →
            resolved.table? = none → resolved.kind.isRefused = false := by
  constructor
  · intro refuses
    have defines : (commenting.defineFields symbolicTable none []).outcome =
        .ok ["DEFINE FIELD id ON TABLE likes TYPE any;",
          "DEFINE FIELD in ON TABLE likes TYPE record;",
          "DEFINE FIELD out ON TABLE likes TYPE record;"] := by decide +kernel
    cases refuses commenting symbolicTable _ defines _ (List.mem_singleton_self _)
  · intro refuses
    have lowers : (Schema.anonymous (.lazily (.template earlyHolder))).Lowers
        commenting.environment ["note"] [] lateSymbol :=
      .resolved rfl rfl rfl nofun (.part (List.mem_singleton_self _)
        (.part (List.mem_singleton_self _) .here))
    cases refuses commenting recycledTable _ ("f", _) lateSymbol _ _ defineFields_recycledTable
      (List.mem_cons_of_mem _ List.mem_cons_self) lowers rfl rfl rfl

end Generator
end TypedTables
