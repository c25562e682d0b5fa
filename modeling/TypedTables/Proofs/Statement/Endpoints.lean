import Mathlib.Data.Fintype.EquivFin
import TypedTables.Proofs.FieldType.Texts
import TypedTables.Proofs.Table.Building
import TypedTables.Proofs.Validation.Evaluation
import TypedTables.Statement.Generation

/-!
# The two ends of a relation

The definition of a relation names the tables it starts and ends in, and so do the fields at its two
ends. The clauses of the definition are written from the endpoints that were set; the fields also take
references that were declared under their names, and an endpoint that permits no table at all has no
clause. In all other tables that can be built the two agree.
-/

namespace TypedTables

namespace Schema

/-- A reference takes the records of a table: they fare as with the same reference to any table. -/
def Takes (reference : Schema) (table : String) : Prop :=
  ∀ environment limit identifier,
    (reference.safeParseWithin limit environment (.record table identifier)).outcome =
      ((reference.withTables none).safeParseWithin limit environment
        (.record table identifier)).outcome

/-- A reference refuses the records of a table, whatever identifies them. -/
def Refuses (reference : Schema) (table : String) : Prop :=
  ∀ environment limit identifier, ∃ issues message,
    (reference.safeParseWithin (limit + 1) environment (.record table identifier)).outcome =
      .ok (.rejected issues message)

variable {reference identifier : Schema} {permitted : Option (List String)} {table : String}

theorem form_withTables (isReference : reference.form = .reference permitted identifier)
    (tables : Option (List String)) :
    (reference.withTables tables).form = .reference tables identifier := by
  rw [withTables, isReference]

theorem refinements_withTables (isReference : reference.form = .reference permitted identifier)
    (tables : Option (List String)) :
    (reference.withTables tables).refinements = reference.refinements := by
  rw [withTables, isReference]

theorem takes_of_permitted (isReference : reference.form = .reference permitted identifier)
    (permits : ∀ tables, permitted = some tables → table ∈ tables) : reference.Takes table := by
  intro environment limit value
  rw [outcome_safeParseWithin, outcome_safeParseWithin]
  cases limit with
  | zero => rfl
  | succ limit =>
      have unrefused : (permitted.filter fun tables => !tables.contains table) = none := by
        simpa [Option.filter_eq_none_iff] using permits
      congr 1
      simp only [Evaluation.within, Evaluation.schema, isReference, form_withTables isReference,
        refinements_withTables isReference, Evaluation.form, Evaluation.reference, unrefused,
        Option.filter_none]

theorem refuses_of_notMem {tables : List String}
    (isReference : reference.form = .reference (some tables) identifier)
    (foreign : table ∉ tables) : reference.Refuses table := by
  intro environment limit value
  have refused : (some tables).filter (fun tables => !tables.contains table) = some tables := by
    simpa [Option.filter_eq_some_iff] using foreign
  have evaluates : Evaluation.within environment (limit + 1) reference (.record table value) =
      .ok (.reject (.record table value)
        (Wrapper.foreignTable tables table (.record table value))) := by
    simp only [Evaluation.within, Evaluation.schema, isReference, Evaluation.form,
      Evaluation.reference, refused]
    rfl
  rw [outcome_safeParseWithin, evaluates]
  exact ⟨_, _, rfl⟩

theorem Refuses.not_takes (isReference : reference.form = .reference permitted identifier)
    (refuses : reference.Refuses table) : ¬reference.Takes table := by
  -- A reference to any table looks at the identifier, for which a depth of one does not suffice.
  intro takes
  obtain ⟨issues, message, rejected⟩ := refuses ⟨[], none⟩ 0 .null
  rw [takes, outcome_safeParseWithin] at rejected
  simp [Evaluation.within, Evaluation.schema, Evaluation.form, form_withTables isReference,
    Evaluation.reference, Except.bind, Except.map] at rejected

end Schema

/-- A clause says of a reference what it does: there is none just where the reference takes the
records of every table, and one lists the tables whose records it takes; it refuses all others. -/
structure Clause.Describes (keyword clause : String) (reference : Schema) : Prop where
  absent : clause = "" ↔ ∀ table, reference.Takes table
  listed : ∀ tables, tables ≠ [] → clause = Clause.tables keyword (some tables) → ∀ table,
    (table ∈ tables → reference.Takes table) ∧ (table ∉ tables → reference.Refuses table)

namespace Clause

variable {keyword : String} {reference identifier : Schema} {permitted : Option (List String)}

theorem tables_of_ne_nil (keyword : String) {names : List String} (listed : names ≠ []) :
    tables keyword (some names) = " " ++ keyword ++ " " ++ FieldType.tableNames names := by
  cases names with
  | nil => exact absurd rfl listed
  | cons name rest => rfl

theorem tables_ne_empty (keyword : String) {names : List String} (listed : names ≠ []) :
    tables keyword (some names) ≠ "" := by
  rw [tables_of_ne_nil keyword listed]
  intro empty
  have characters := congrArg String.toList empty
  simp only [String.toList_append] at characters
  cases characters

theorem tables_injective {first second : List String} (someFirst : first ≠ [])
    (someSecond : second ≠ [])
    (same : tables keyword (some first) = tables keyword (some second)) : first = second := by
  rw [tables_of_ne_nil keyword someFirst, tables_of_ne_nil keyword someSecond] at same
  have characters := congrArg String.toList same
  simp only [String.toList_append, List.append_cancel_left_eq] at characters
  exact FieldType.tableNames_injective someFirst someSecond (String.toList_injective characters)

/-- A reference to particular tables does not take the records of every table. -/
theorem not_takes_all {names : List String}
    (isReference : reference.form = .reference (some names) identifier) :
    ¬∀ table, reference.Takes table := by
  intro takes
  obtain ⟨table, foreign⟩ := Infinite.exists_notMem_finset names.toFinset
  exact (Schema.refuses_of_notMem isReference (by simpa using foreign)).not_takes isReference
    (takes table)

theorem describes_permitted (isReference : reference.form = .reference permitted identifier)
    (permitsSome : permitted ≠ some []) :
    Describes keyword (tables keyword permitted) reference := by
  cases permitted with
  | none =>
      refine ⟨⟨fun _ table => Schema.takes_of_permitted isReference (by simp), fun _ => rfl⟩, ?_⟩
      intro names listed same
      exact absurd same.symm (tables_ne_empty keyword listed)
  | some names =>
      have listed : names ≠ [] := fun none => permitsSome (by rw [none])
      refine ⟨⟨fun empty => absurd empty (tables_ne_empty keyword listed),
        fun takes => absurd takes (not_takes_all isReference)⟩, ?_⟩
      intro others listedOthers same table
      obtain rfl := tables_injective listed listedOthers same
      exact ⟨fun member => Schema.takes_of_permitted isReference (by simpa using member),
        Schema.refuses_of_notMem isReference⟩

theorem not_describes_empty {names : List String}
    (isReference : reference.form = .reference (some names) identifier) :
    ¬Describes keyword "" reference :=
  fun describes => not_takes_all isReference (describes.absent.mp rfl)

end Clause

namespace Table

def endClause (keyword : String) (endpoint : Option Schema) : String :=
  Clause.tables keyword (endpointTables endpoint)

/-- An end of a relation is stated where its clause is written from: an endpoint was set that permits
some table, or none was set and no reference to particular tables is declared in its place. -/
def StatesEnd (table : Table Schema) (name : String) : Option Schema → Prop
  | some endpoint => endpoint.referenceTables? ≠ some (some [])
  | none => ∀ declared, fieldNamed? name table.declared = some declared →
      ∀ names, declared.referenceTables? ≠ some (some names)

theorem describes_endField_iff (table : Table Schema) (keyword name : String)
    {endpoint : Option Schema}
    (isReference : ∀ schema, endpoint = some schema → schema.kind = .reference) :
    Clause.Describes keyword (endClause keyword endpoint) (table.endField name endpoint) ↔
      table.StatesEnd name endpoint := by
  cases endpoint with
  | some endpoint =>
      obtain ⟨permitted, identifier, form⟩ :=
        Schema.form_of_kind_eq_reference (isReference endpoint rfl)
      have tables : endpointTables (some endpoint) = permitted := by
        simp [endpointTables, Schema.referenceTables?, form]
      simp only [endClause, endField, StatesEnd, tables, Schema.referenceTables?, form, ne_eq,
        Option.some.injEq]
      refine ⟨fun describes empty => ?_, Clause.describes_permitted form⟩
      subst empty
      exact Clause.not_describes_empty form describes
  | none =>
      have tables : endpointTables none = none := rfl
      have unrestricted : Clause.Describes keyword (Clause.tables keyword none)
          (Schema.referenceTo none) :=
        Clause.describes_permitted rfl (by simp)
      cases found : fieldNamed? name table.declared with
      | none =>
          simp only [endClause, endField, StatesEnd, found, tables]
          exact iff_of_true unrestricted (by simp)
      | some declared =>
          simp only [endClause, endField, StatesEnd, found, tables, Option.some.injEq, forall_eq']
          split
          · rename_i isReference
            obtain ⟨permitted, identifier, form⟩ := Schema.form_of_kind_eq_reference isReference
            simp only [Schema.referenceTables?, form, ne_eq, Option.some.injEq]
            cases permitted with
            | none => exact iff_of_true (Clause.describes_permitted form (by simp)) (by simp)
            | some names => exact iff_of_false (Clause.not_describes_empty form) (by simp)
          · rename_i notReference
            refine iff_of_true unrestricted fun names isRestricted => notReference ?_
            unfold Schema.referenceTables? at isRestricted
            split at isRestricted
            · rename_i form
              rw [Schema.kind, form]
              rfl
            · cases isRestricted

theorem IsSound.fieldNamed?_ends {table : Table Schema} (isSound : table.IsSound)
    (isRelation : table.mode = .relation) :
    fieldNamed? "in" table.shape = some (table.endField "in" table.source) ∧
      fieldNamed? "out" table.shape = some (table.endField "out" table.target) := by
  obtain ⟨fields, shape⟩ := isSound.shape
  have isShape : table.shape = fields := by rw [Table.shape, shape]
  obtain ⟨identifier, -, rfl⟩ := (except_map_eq_ok_iff _ _ _).mp shape
  rw [isShape, endFields, if_pos isRelation]
  exact ⟨rfl, rfl⟩

end Table

namespace Generator

/-- A relation that was built is defined with a clause for each of its ends after its type. The clause
lists the tables whose records the field at that end takes, and is left out when the field takes the
records of every table, just where the end is stated: where an endpoint was set, other than one that
permits no table, or none was set and no reference to particular tables is declared in its place. -/
theorem describes_ends_iff {schema : Schema} {table : Table Schema}
    (isBuilt : schema.IsBuiltTable) (isTable : schema.form = .table table)
    (isRelation : table.mode = .relation) (existing : ExistingPolicy) :
    ∃ incoming outgoing,
      (tableDefinition table existing).text = (Clause.comment table.comment).map (fun comment =>
        "DEFINE TABLE" ++ Clause.existing existing ++ " " ++ Identifier.escapeText table.name ++
          " TYPE " ++ "RELATION" ++ (Table.endClause "FROM" table.source ++
            Table.endClause "TO" table.target) ++ Clause.optional table.drops " DROP" ++
          (if table.isStrict then " SCHEMAFULL" else " SCHEMALESS") ++ comment ++ ";") ∧
      fieldNamed? "in" table.shape = some incoming ∧
      fieldNamed? "out" table.shape = some outgoing ∧
      (Clause.Describes "FROM" (Table.endClause "FROM" table.source) incoming ↔
        table.StatesEnd "in" table.source) ∧
      (Clause.Describes "TO" (Table.endClause "TO" table.target) outgoing ↔
        table.StatesEnd "out" table.target) := by
  have isSound := isBuilt.isSound isTable
  obtain ⟨hasIn, hasOut⟩ := isSound.fieldNamed?_ends isRelation
  refine ⟨_, _, ?_, hasIn, hasOut,
    table.describes_endField_iff "FROM" "in" isSound.source,
    table.describes_endField_iff "TO" "out" isSound.target⟩
  have mode : Text.asciiUpper TableMode.relation.text = "RELATION" := by decide +kernel
  simp only [TableDefinition.text, tableDefinition, TableDefinition.endpoints, isRelation, if_true,
    mode, Table.endClause]

/-- A table schema that was built as the first, second or later schema. -/
def builtSchema (place : Nat) (table : Table Schema) : Schema :=
  { identity := some place, refinements := [], description := .null, form := .table table }

def likes : Table Schema := Table.named "likes" .relation

theorem isBuiltTable_of_likes {method : Method} {table : Table Schema}
    (takesReference : method.TakesReference)
    (builds : method.apply (builtSchema 0 likes) ⟨1, true⟩ =
      .ok (builtSchema 1 table, ⟨2, true⟩)) :
    (builtSchema 1 table).IsBuiltTable := by
  have begins : Builder.table "likes" .relation ⟨0, true⟩ = .ok (builtSchema 0 likes, ⟨1, true⟩) :=
    rfl
  exact .next (.new begins) takesReference builds rfl

/-- A relation between users and anything. -/
def likesFromUsers : Table Schema :=
  { likes with source := some (Schema.referenceTo (some ["user"])) }

theorem isBuiltTable_likesFromUsers : (builtSchema 1 likesFromUsers).IsBuiltTable :=
  isBuiltTable_of_likes (show (Method.source (.tables ["user"])).TakesReference from trivial) rfl

/-- The relation is defined from users, whose records its field takes. -/
theorem describes_likesFromUsers :
    ∃ incoming, fieldNamed? "in" likesFromUsers.shape = some incoming ∧
      (tableDefinition likesFromUsers .refuse).text =
        .ok "DEFINE TABLE likes TYPE RELATION FROM user SCHEMALESS;" ∧
      Clause.Describes "FROM" " FROM user" incoming := by
  obtain ⟨incoming, outgoing, text, hasIn, -, describes, -⟩ :=
    describes_ends_iff isBuiltTable_likesFromUsers rfl rfl .refuse
  refine ⟨incoming, hasIn, text.trans (congrArg Except.ok (by decide +kernel)), ?_⟩
  have clause : Table.endClause "FROM" likesFromUsers.source = " FROM user" := by decide +kernel
  rw [clause] at describes
  exact describes.mpr (by simp [likesFromUsers, Table.StatesEnd, Schema.referenceTables?,
    Schema.referenceTo, Schema.anonymous])

def likesDeclared : Table Schema :=
  { likes with declared := [("in", Schema.referenceTo (some ["user"]))] }

/-- A relation with a declared field for users is defined without a clause for it, though the field
takes the records of users only. -/
theorem not_describes_likesDeclared :
    (builtSchema 1 likesDeclared).IsBuiltTable ∧
      (tableDefinition likesDeclared .refuse).text =
        .ok "DEFINE TABLE likes TYPE RELATION SCHEMALESS;" ∧
      ∃ incoming, fieldNamed? "in" likesDeclared.shape = some incoming ∧
        incoming.Refuses "post" ∧ ¬incoming.Takes "post" ∧
        ¬Clause.Describes "FROM" (Table.endClause "FROM" likesDeclared.source) incoming := by
  have isBuilt : (builtSchema 1 likesDeclared).IsBuiltTable :=
    isBuiltTable_of_likes
      (show (Method.fields [("in", Schema.referenceTo (some ["user"]))]).TakesReference from trivial)
      rfl
  have refuses : (Schema.referenceTo (some ["user"])).Refuses "post" :=
    Schema.refuses_of_notMem rfl (by decide)
  exact ⟨isBuilt, congrArg Except.ok (by decide +kernel), Schema.referenceTo (some ["user"]), rfl,
    refuses, refuses.not_takes rfl, Clause.not_describes_empty rfl⟩

end Generator

end TypedTables
