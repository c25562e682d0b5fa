import TypedTables.Proofs.Statement.Fields
import TypedTables.Proofs.Statement.Texts

/-!
# Statements are whole

Texts from outside reach statements as names, as segments of paths, as table names of record types,
as literals inside of types, and as defaults and comments. A statement is whole when a reader ends
outside of quoted parts and meets one bare semicolon, the last character. Every statement that is
generated is whole: its parts hide semicolons, and one more ends it.
-/

namespace TypedTables

open Text

namespace Text

/-- A reader ends outside of quoted parts, and only the last character is a bare semicolon. -/
def IsStatement (text : String) : Prop :=
  QuotingState.outside.read text.toList = .outside ∧
    bareAt ';' .outside text.toList = [text.length - 1]

instance (text : String) : Decidable (IsStatement text) := inferInstanceAs (Decidable (_ ∧ _))

theorem Hides.isStatement {text : String} (hides : Hides ';' text) : IsStatement (text ++ ";") := by
  obtain ⟨reads, bare⟩ := hides
  have last : (";" : String).toList = [';'] := rfl
  refine ⟨?_, ?_⟩
  · rw [String.toList_append, QuotingState.read_append, reads, last]
    rfl
  · have length : (text ++ ";").length - 1 = text.toList.length := by
      rw [String.length_append, String.length_toList]
      rfl
    rw [String.toList_append, bareAt_append, bare, reads, last, length]
    simp [bareAt]

end Text

namespace Clause

theorem hides_comment {comment : Value} {text : String}
    (writes : Clause.comment comment = .ok text) : Hides ';' text := by
  unfold Clause.comment at writes
  split at writes
  · obtain ⟨literal, written, rfl⟩ := (except_map_eq_ok_iff _ _ _).mp writes
    exact (show Hides ';' " COMMENT " by decide).append (Value.hides_literal written)
  · cases writes
    decide

theorem hides_default {value : Value} {text : String} (writes : Clause.default value = .ok text) :
    Hides ';' text := by
  obtain ⟨literal, written, rfl⟩ := (except_map_eq_ok_iff _ _ _).mp writes
  exact (show Hides ';' " DEFAULT " by decide).append (Value.hides_literal written)

theorem hides_existing (policy : ExistingPolicy) : Hides ';' (Clause.existing policy) := by
  cases policy <;> decide

theorem hides_missing (policy : MissingPolicy) : Hides ';' (Clause.missing policy) := by
  cases policy <;> decide

theorem hides_optional {clause : String} (hides : Hides ';' clause) (isWritten : Bool) :
    Hides ';' (Clause.optional isWritten clause) := by
  cases isWritten with
  | true => exact hides
  | false => exact Passes.nil

theorem hides_tables {keyword : String} (hides : Hides ';' keyword)
    (names : Option (List String)) : Hides ';' (Clause.tables keyword names) := by
  cases names with
  | none => exact Passes.nil
  | some listed =>
      cases listed with
      | nil => exact Passes.nil
      | cons name rest =>
          have blank : Hides ';' " " := by decide
          have written := (blank.append hides).append
            (blank.append (FieldType.hides_tableNames (name :: rest)))
          simpa [Clause.tables, toString, String.append_assoc] using written

end Clause

theorem TableDefinition.isStatement_text {definition : TableDefinition} {text : String}
    (writes : definition.text = .ok text) : IsStatement text := by
  obtain ⟨comment, written, rfl⟩ := (except_map_eq_ok_iff _ _ _).mp writes
  have head : Hides ';' "DEFINE TABLE" := by decide
  have blank : Hides ';' " " := by decide
  have name : Hides ';' (Identifier.escapeText definition.name) :=
    Identifier.hides_escapeText (by decide) definition.name
  have kind : Hides ';' " TYPE " := by decide
  have mode : Hides ';' (asciiUpper definition.mode.text) := by
    cases definition.mode <;> decide +kernel
  have endpoints : Hides ';' definition.endpoints := by
    unfold TableDefinition.endpoints
    split
    · exact (Clause.hides_tables (by decide) _).append (Clause.hides_tables (by decide) _)
    · exact Passes.nil
  have drops : Hides ';' (Clause.optional definition.drops " DROP") :=
    Clause.hides_optional (by decide) _
  have strictness : Hides ';' (if definition.isStrict then " SCHEMAFULL" else " SCHEMALESS") := by
    cases definition.isStrict <;> decide
  exact (((((((((head.append (Clause.hides_existing _)).append blank).append name).append
    kind).append mode).append endpoints).append drops).append strictness).append
    (Clause.hides_comment written)).isStatement

theorem Identifier.hides_fieldPath (path : List String) : Hides ';' (fieldPath path) := by
  refine .intercalate (by decide) fun written member => ?_
  obtain ⟨segment, -, rfl⟩ := List.mem_map.mp member
  exact hides_segment (by decide) (by decide) segment

theorem FieldDefinition.isStatement_text {definition : FieldDefinition} {text : String}
    (type : Hides ';' definition.type.text) (writes : definition.text = .ok text) :
    IsStatement text := by
  obtain ⟨default, writesDefault, remaining⟩ := (except_bind_eq_ok_iff _ _ _).mp writes
  obtain ⟨comment, writesComment, rfl⟩ := (except_map_eq_ok_iff _ _ _).mp remaining
  have head : Hides ';' "DEFINE FIELD" := by decide
  have blank : Hides ';' " " := by decide
  have ofTable : Hides ';' " ON TABLE " := by decide
  have table : Hides ';' (Identifier.escapeText definition.table) :=
    Identifier.hides_escapeText (by decide) definition.table
  have kind : Hides ';' " TYPE " := by decide
  have flexible : Hides ';' (Clause.optional definition.isFlexible " FLEXIBLE") :=
    Clause.hides_optional (by decide) _
  have supplied : Hides ';' default := by
    unfold FieldDefinition.defaultClause at writesDefault
    split at writesDefault
    · exact Clause.hides_default writesDefault
    · cases writesDefault
      decide
  exact ((((((((((head.append (Clause.hides_existing _)).append blank).append
    (Identifier.hides_fieldPath definition.path)).append ofTable).append table).append
    kind).append type).append flexible).append supplied).append
    (Clause.hides_comment writesComment)).isStatement

/-- The types of fields are made of names, literals and table names. -/
def LoweringTerms.hidden : LoweringTerms where
  fault _ := True
  atom atom := Hides ';' (FieldType.atomText atom)
  child _ := True

theorem LoweringTerms.allowsAtoms_hidden : LoweringTerms.hidden.AllowsAtoms where
  name := by
    intro atom isName
    revert atom
    simp only [LoweringTerms.hidden]
    decide
  literal value text writes := by
    change Hides ';' (FieldType.atomText (.literal value))
    rw [TypeAtom.atomText_literal writes]
    exact Value.hides_literal writes
  array type all := by
    have inner : Hides ';' type.text := FieldType.hides_text all
    exact ((show Hides ';' "array<" by decide).append inner).append (by decide)
  tuple types all := by
    have elements : Hides ';'
        (", ".intercalate (FieldType.typeTexts (FieldType.distinct types))) := by
      refine .intercalate (by decide) fun written member => ?_
      rw [FieldType.typeTexts_eq_map] at member
      obtain ⟨type, present, rfl⟩ := List.mem_map.mp member
      exact FieldType.hides_text (all type (FieldType.mem_of_mem_distinct present))
    exact ((show Hides ';' "[" by decide).append elements).append (by decide)
  tables tables :=
    ((show Hides ';' "record<" by decide).append (FieldType.hides_tableNames tables)).append
      (by decide)

theorem Schema.hides_lowered (schema : Schema) (scope : LoweringScope)
    (ancestors : List Ancestor) :
    EndsIn (fun _ => True) (fun field => Hides ';' field.type.text)
      (schema.lowered scope ancestors).outcome := by
  have abides : Lowering.Abides .hidden ancestors Lowering.anyResult
      (Lowering.enter scope schema) :=
    Lowering.abides_run_of_atoms LoweringTerms.allowsAtoms_hidden (fun _ => trivial)
      (fun _ => trivial) _ scope schema
  exact (Schema.endsIn_lowered abides).mono (fun _ => id) fun field kept =>
    FieldType.hides_text kept.1

namespace Generator

variable (generator : Generator) (table : Table Schema)

theorem isStatement_written {statements : List Statement}
    (types : ∀ definition, Statement.defineField definition ∈ statements →
      Hides ';' definition.type.text) :
    EndsIn (fun _ => True) (fun texts => ∀ text ∈ texts, IsStatement text)
      (written statements).outcome := by
  refine EndsIn.mapM fun statement member => ?_
  cases writes : statement.text with
  | error cause => trivial
  | ok text =>
      change IsStatement text
      cases statement with
      | defineTable definition => exact definition.isStatement_text writes
      | defineField definition => exact definition.isStatement_text (types definition member) writes
      | removeTable missing name =>
          cases writes
          exact ((((show Hides ';' "REMOVE TABLE" by decide).append
            (Clause.hides_missing missing)).append (show Hides ';' " " by decide)).append
            (Identifier.hides_escapeText (by decide) name)).isStatement
      | describeTable structured name =>
          cases writes
          exact (((show Hides ';' "INFO FOR TABLE " by decide).append
            (Identifier.hides_escapeText (by decide) name)).append
            (Clause.hides_optional (by decide) structured)).isStatement

theorem hides_tableFields (choices : DefineChoices) :
    EndsIn (fun _ => True) (fun definitions => ∀ definition ∈ definitions,
        Hides ';' definition.type.text)
      (generator.tableFields table choices).outcome := by
  refine generator.endsIn_tableFields choices table fun field _ => ?_
  refine endsIn_fieldDefinitions generator table.name choices (fun _ _ _ _ => True)
    (fun _ _ _ _ => trivial) (fun _ _ _ => trivial) ?_ trivial
  intro levels path ancestors schema _
  exact (Schema.hides_lowered schema _ ancestors).mono (fun _ => id) fun _ hides =>
    ⟨hides, fun _ _ => trivial⟩

theorem isStatement_defined {definitions : List FieldDefinition}
    (types : ∀ definition ∈ definitions, Hides ';' definition.type.text) :
    EndsIn (fun _ => True) (fun texts => ∀ text ∈ texts, IsStatement text)
      (written (definitions.map .defineField)).outcome := by
  refine isStatement_written fun definition member => ?_
  obtain ⟨found, present, equal⟩ := List.mem_map.mp member
  cases equal
  exact types definition present

theorem isStatement_tableStatements (choices : DefineChoices) :
    EndsIn (fun _ => True) (fun texts => ∀ text ∈ texts, IsStatement text)
      (generator.tableStatements table choices).outcome := by
  have head : EndsIn (fun _ => True) (fun texts => ∀ text ∈ texts, IsStatement text)
      (written [.defineTable (tableDefinition table choices.existing)]).outcome :=
    isStatement_written fun definition member => by simp at member
  simp only [tableStatements, Traced.outcome_inBlock, Traced.bind_eq, Traced.outcome_andThen]
  refine head.bind fun first _ wholeFirst => ?_
  cases choices.fields with
  | false => exact fun text member => wholeFirst text (by simpa using member)
  | true =>
      simp only [if_true, Traced.outcome_andThen]
      refine (hides_tableFields generator table choices).bind fun definitions _ hides => ?_
      refine (isStatement_defined hides).bind fun texts _ whole => fun text member => ?_
      rcases List.mem_append.mp member with early | late
      · exact wholeFirst text early
      · exact whole text late

/-- Every statement about a table is whole: those that define it, with or without its fields, those
that define its fields alone, the one that removes it, and those that ask about it. -/
theorem isStatement_of_generated :
    (∀ options overrides, EndsIn (fun _ => True) (fun texts => ∀ text ∈ texts, IsStatement text)
      (generator.defineTable table options overrides).outcome) ∧
    (∀ options overrides, EndsIn (fun _ => True) (fun texts => ∀ text ∈ texts, IsStatement text)
      (generator.defineFields table options overrides).outcome) ∧
    (∀ kind defineOptions removeOptions overrides,
      EndsIn (fun _ => True) (fun texts => ∀ text ∈ texts, IsStatement text)
        (generator.statements table kind defineOptions removeOptions overrides).outcome) := by
  have chosen {α : Type} (outcome : Except Fault α) :
      EndsIn (fun _ => True) (fun _ => True) outcome := by
    cases outcome <;> trivial
  have defines (options : Option DefineOptions) (overrides : GivenOptions) :
      EndsIn (fun _ => True) (fun texts => ∀ text ∈ texts, IsStatement text)
        (generator.defineTable table options overrides).outcome := by
    simp only [defineTable, Traced.bind_eq, Traced.outcome_andThen]
    exact (chosen _).bind fun choices _ _ => isStatement_tableStatements generator table choices
  refine ⟨defines, ?_, ?_⟩
  · intro options overrides
    simp only [defineFields, Traced.bind_eq, Traced.outcome_andThen]
    exact (chosen _).bind fun choices _ _ =>
      (hides_tableFields generator table choices).bind fun definitions _ hides =>
        isStatement_defined hides
  · intro kind defineOptions removeOptions overrides
    simp only [statements, Traced.bind_eq, Traced.outcome_andThen]
    refine (chosen _).bind fun named _ _ => ?_
    cases named with
    | define => exact defines defineOptions overrides
    | remove =>
        simp only [Traced.outcome_andThen]
        exact (chosen _).bind fun missing _ _ =>
          isStatement_written fun definition member => by simp at member
    | info => exact isStatement_written fun definition member => by simp at member
    | detail => exact isStatement_written fun definition member => by simp at member

end Generator
end TypedTables
