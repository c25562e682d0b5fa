import TypedTables.Proofs.Table.Building
import TypedTables.Statement.Generation

/-!
# Tables and the last write to each of their attributes

A table is built in steps, in any order and number. Each step writes one attribute of the table, or
two where an endpoint also makes it a relation, and of every attribute the last write counts. The
shape is made anew from what was declared after every step, so it does not depend on the steps
before: two ways of building that agree in the last writes end in tables of one shape and one
definition.
-/

namespace TypedTables

/-- A step of building a table; an endpoint that is given as a schema is a reference to records. -/
inductive TableStep where
  | name (newName : String)
  | fields (shape : List (String × Schema))
  | schemafull
  | schemaless
  | any
  | normal
  | relation
  | source (endpoint : Endpoint) (isReference : endpoint.IsReference)
  | target (endpoint : Endpoint) (isReference : endpoint.IsReference)
  | drop
  | nodrop
  | comment (text : Value)
  | draft
  | entity

namespace TableStep

def method : TableStep → Method
  | .name newName => .name newName
  | .fields shape => .fields shape
  | .schemafull => .schemafull
  | .schemaless => .schemaless
  | .any => .any
  | .normal => .normal
  | .relation => .relation
  | .source endpoint _ => .source endpoint
  | .target endpoint _ => .target endpoint
  | .drop => .drop
  | .nodrop => .nodrop
  | .comment text => .comment text
  | .draft => .draft
  | .entity => .entity

theorem takesReference (step : TableStep) : step.method.TakesReference := by
  cases step with
  | source endpoint isReference | target endpoint isReference => exact isReference
  | _ => trivial

/-! ## What a step writes -/

def writtenName : TableStep → Option String
  | .name newName => some newName
  | _ => none

/-- The declared fields that a step writes: each name once, with its last schema. -/
def writtenFields : TableStep → Option (List (String × Schema))
  | .fields shape => some (collectFields shape)
  | _ => none

def writtenCatchall : TableStep → Option Schema
  | .schemafull => some (.anonymous .never)
  | .schemaless => some (.anonymous .unknown)
  | _ => none

/-- The mode that a step writes; an endpoint makes a relation. -/
def writtenMode : TableStep → Option TableMode
  | .any => some .any
  | .normal => some .normal
  | .relation | .source .. | .target .. => some .relation
  | _ => none

def writtenSource : TableStep → Option (Option Schema)
  | .source endpoint _ => some (some (Method.endpointReference endpoint))
  | _ => none

def writtenTarget : TableStep → Option (Option Schema)
  | .target endpoint _ => some (some (Method.endpointReference endpoint))
  | _ => none

def writtenDrops : TableStep → Option Bool
  | .drop => some true
  | .nodrop => some false
  | _ => none

def writtenComment : TableStep → Option Value
  | .comment text => some text
  | _ => none

def writtenDraft : TableStep → Option Bool
  | .draft => some true
  | .entity => some false
  | _ => none

/-! ## The last write -/

section LastWritten

variable {α : Type} {writes : TableStep → Option α}

/-- The last value that steps write, or what was there before them. -/
def lastWritten (writes : TableStep → Option α) (before : α) (steps : List TableStep) : α :=
  (steps.filterMap writes).getLastD before

@[simp] theorem lastWritten_nil (before : α) : lastWritten writes before [] = before := rfl

theorem lastWritten_cons (before : α) (step : TableStep) (rest : List TableStep) :
    lastWritten writes before (step :: rest) =
      lastWritten writes ((writes step).getD before) rest := by
  unfold lastWritten
  cases written : writes step with
  | none => rw [List.filterMap_cons_none written, Option.getD_none]
  | some value => rw [List.filterMap_cons_some written, List.getLastD_cons, Option.getD_some]

theorem of_lastWritten (property : α → Prop) {before : α} {steps : List TableStep}
    (held : property before)
    (written : ∀ step ∈ steps, ∀ value, writes step = some value → property value) :
    property (lastWritten writes before steps) := by
  induction steps generalizing before with
  | nil => exact held
  | cons step rest ih =>
      rw [lastWritten_cons]
      refine ih ?_ fun next member => written next (by simp [member])
      cases writesHere : writes step with
      | none => exact held
      | some value => exact written step (by simp) value writesHere

end LastWritten

end TableStep
/-! ## Tables after steps -/

namespace Builder

theorem shape?_of_withTable_eq_error {schema : Schema} {table : Table Schema}
    {supply : IdentitySupply} {cause : Fault}
    (fails : withTable schema table supply = .error cause) : table.shape? = .error cause := by
  have identifies : ∃ identity used, nextIdentity supply = .ok (identity, used) := by
    unfold nextIdentity
    split <;> exact ⟨_, _, rfl⟩
  obtain ⟨identity, used, identified⟩ := identifies
  unfold withTable Table.checked at fails
  cases shape : table.shape? with
  | error other =>
      rw [shape] at fails
      cases fails
      rfl
  | ok fields =>
      rw [shape] at fails
      change (nextIdentity supply).bind _ = _ at fails
      rw [identified] at fails
      cases fails

end Builder

namespace Table

open TableStep

def after (table : Table Schema) (steps : List TableStep) : Table Schema :=
  { name := lastWritten writtenName table.name steps
    declared := lastWritten writtenFields table.declared steps
    catchall := lastWritten writtenCatchall table.catchall steps
    mode := lastWritten writtenMode table.mode steps
    source := lastWritten writtenSource table.source steps
    target := lastWritten writtenTarget table.target steps
    drops := lastWritten writtenDrops table.drops steps
    comment := lastWritten writtenComment table.comment steps
    isDraft := lastWritten writtenDraft table.isDraft steps }

theorem after_cons (table : Table Schema) (step : TableStep) (rest : List TableStep) :
    table.after (step :: rest) = (table.after [step]).after rest := by
  simp only [after, lastWritten_cons, lastWritten_nil]

theorem declares_of_shape?_eq_error {table : Table Schema} {cause : Fault}
    (fails : table.shape? = .error cause) :
    ∃ identifier, fieldNamed? "id" table.declared = some identifier ∧
      identifier.kind ≠ .reference ∧ identifier.kind.describesIdentifier = false ∧
      cause = .unsuitableIdentifier identifier.kind.name := by
  have refers := (except_map_eq_error_iff _ _ _).mp ((except_map_eq_error_iff _ _ _).mp fails)
  unfold recordReference at refers
  split at refers
  · cases refers
  · rename_i identifier declared
    split at refers
    · cases refers
    · rename_i notReference
      unfold Schema.withIdentifier at refers
      split at refers
      · cases refers
      · rename_i unsuitable
        exact ⟨identifier, declared, notReference, by simpa using unsuitable,
          (Except.error.inj refers).symm⟩

end Table

namespace TableStep

variable {schema result : Schema} {table : Table Schema} {supply remaining : IdentitySupply}

theorem apply_method (step : TableStep) (isTable : schema.form = .table table) :
    step.method.apply schema = Builder.withTable schema (table.after [step]) := by
  cases step <;> (simp only [method, Method.apply, Method.onTable, isTable]; rfl)

def applyAll : List TableStep → Schema → Builder Schema
  | [], schema => pure schema
  | step :: rest, schema => do
      let next ← step.method.apply schema
      applyAll rest next

theorem applyAll_cons (step : TableStep) (rest : List TableStep) (schema : Schema)
    (supply : IdentitySupply) :
    applyAll (step :: rest) schema supply =
      (step.method.apply schema supply).bind fun built => applyAll rest built.1 built.2 := rfl

/-- Steps end in a table schema with their last writes, or at a step after which the table has no
shape. The induction is on the steps, with the table that they start at. -/
theorem applyAll_cases (steps : List TableStep) (supply : IdentitySupply)
    (isBuilt : schema.IsBuiltTable) (isTable : schema.form = .table table) :
    match applyAll steps schema supply with
    | .error cause => ∃ earlier step later, steps = earlier ++ step :: later ∧
        (table.after (earlier ++ [step])).shape? = .error cause
    | .ok (result, _) => result.IsBuiltTable ∧ result.form = .table (table.after steps) := by
  induction steps generalizing schema table supply with
  | nil => exact ⟨isBuilt, isTable⟩
  | cons step rest ih =>
      rw [applyAll_cons]
      cases applied : step.method.apply schema supply with
      | error cause =>
          rw [apply_method step isTable] at applied
          exact ⟨[], step, rest, rfl, Builder.shape?_of_withTable_eq_error applied⟩
      | ok built =>
          obtain ⟨next, used⟩ := built
          have isNext : next.form = .table (table.after [step]) := by
            rw [apply_method step isTable] at applied
            exact (Builder.form_of_withTable applied).2
          have further := ih used
            (.next isBuilt step.takesReference applied isNext) isNext
          simp only [Except.bind]
          cases taken : applyAll rest next used with
          | error cause =>
              rw [taken] at further
              obtain ⟨earlier, failing, later, rfl, shapeless⟩ := further
              refine ⟨step :: earlier, failing, later, rfl, ?_⟩
              rw [List.cons_append, table.after_cons]
              exact shapeless
          | ok final =>
              rw [taken] at further
              rw [table.after_cons]
              exact further

end TableStep

/-! ## Declared fields -/

theorem nodup_collectFields (fields : List (String × Schema)) :
    ((collectFields fields).map Prod.fst).Nodup := by
  suffices kept : ∀ collected : List (String × Schema), (collected.map Prod.fst).Nodup →
      ((fields.foldl (fun collected field => putField field.1 field.2 collected) collected).map
        Prod.fst).Nodup from kept [] List.nodup_nil
  induction fields with
  | nil => exact fun _ unique => unique
  | cons field rest ih =>
      intro collected unique
      refine ih _ ?_
      rw [map_fst_putField]
      split
      · exact unique
      · rename_i absent
        refine List.nodup_append.mpr ⟨unique, by simp, ?_⟩
        rintro present member added single rfl
        exact absent (List.mem_singleton.mp single ▸ member)

namespace Table

variable {table : Table Schema}

theorem kind_endField {name : String} {endpoint : Option Schema}
    (isReference : ∀ schema, endpoint = some schema → schema.kind = .reference) :
    (table.endField name endpoint).kind = .reference := by
  unfold endField
  split
  · exact isReference _ rfl
  · split
    · split
      · assumption
      · rfl
    · rfl

theorem kind_of_mem_endFields (isSound : table.IsSound) {field : String × Schema}
    (member : field ∈ table.endFields) : field.2.kind = .reference := by
  unfold endFields at member
  split at member
  · rcases List.mem_pair.mp member with rfl | rfl
    · exact kind_endField isSound.source
    · exact kind_endField isSound.target
  · cases member

theorem IsSound.shape_eq (isSound : table.IsSound) :
    ∃ reference identifier, reference.form = .reference (some [table.name]) identifier ∧
      table.shape = ("id", if table.isDraft then .anonymous (.optional reference) else reference) ::
        (table.endFields ++ table.ownFields) := by
  obtain ⟨fields, shape⟩ := isSound.shape
  obtain ⟨identifier, identified, rfl⟩ := (except_map_eq_ok_iff _ _ _).mp shape
  obtain ⟨reference, refers, rfl⟩ := (except_map_eq_ok_iff _ _ _).mp identified
  obtain ⟨described, isReference, -⟩ := recordReference_eq_ok refers
  exact ⟨reference, described, isReference, by rw [Table.shape, shape]⟩

end Table

/-! ## Ways of building a table -/

/-- A way of building a table: what it is begun with, and steps. -/
structure TablePlan where
  name : String
  mode : TableMode
  steps : List TableStep

namespace TablePlan

open TableStep

def build (plan : TablePlan) : Builder Schema := do
  let schema ← Builder.table plan.name plan.mode
  applyAll plan.steps schema

def table (plan : TablePlan) : Table Schema := (Table.named plan.name plan.mode).after plan.steps

def endNames (plan : TablePlan) : List String :=
  if lastWritten writtenMode plan.mode plan.steps = .relation then ["in", "out"] else []

def declaredNames (plan : TablePlan) : List String :=
  (lastWritten writtenFields [] plan.steps).map Prod.fst

/-- A table has the standard shape that the last writes of a plan ask for: the identifier, the two
ends of a relation, and the other declared fields in their order. References to its records lead to
the table of its name, and are optional in a draft. -/
structure Shapes (plan : TablePlan) (table : Table Schema) : Prop where
  fieldNames : table.fieldNames = "id" :: (plan.endNames ++
    plan.declaredNames.filter fun name => !("id" :: plan.endNames).contains name)
  unique : table.fieldNames.Nodup
  ends : ∀ field ∈ table.shape, field.1 ∈ plan.endNames → field.2.kind = .reference
  record : ∃ reference identifier,
    reference.form = .reference (some [lastWritten writtenName plan.name plan.steps]) identifier ∧
      table.recordSchema = if lastWritten writtenDraft false plan.steps
        then .anonymous (.optional reference) else reference

/-- Two plans write the same last to each attribute. -/
structure AgreesWith (first second : TablePlan) : Prop where
  name : lastWritten writtenName first.name first.steps =
    lastWritten writtenName second.name second.steps
  fields : lastWritten writtenFields [] first.steps = lastWritten writtenFields [] second.steps
  catchall : lastWritten writtenCatchall (.anonymous .unknown) first.steps =
    lastWritten writtenCatchall (.anonymous .unknown) second.steps
  mode : lastWritten writtenMode first.mode first.steps =
    lastWritten writtenMode second.mode second.steps
  source : lastWritten writtenSource none first.steps = lastWritten writtenSource none second.steps
  target : lastWritten writtenTarget none first.steps = lastWritten writtenTarget none second.steps
  drops : lastWritten writtenDrops false first.steps = lastWritten writtenDrops false second.steps
  comment : lastWritten writtenComment .null first.steps =
    lastWritten writtenComment .null second.steps
  draft : lastWritten writtenDraft false first.steps = lastWritten writtenDraft false second.steps

theorem AgreesWith.table_eq {first second : TablePlan} (agrees : first.AgreesWith second) :
    first.table = second.table := by
  simp only [table, Table.after, Table.named, agrees.name, agrees.fields, agrees.catchall,
    agrees.mode, agrees.source, agrees.target, agrees.drops, agrees.comment, agrees.draft]

theorem build_cases (plan : TablePlan) (supply : IdentitySupply) :
    match plan.build supply with
    | .error cause => ∃ earlier step later, plan.steps = earlier ++ step :: later ∧
        ((Table.named plan.name plan.mode).after (earlier ++ [step])).shape? = .error cause
    | .ok (schema, _) => schema.form = .table plan.table ∧ plan.table.IsSound := by
  obtain ⟨schema, used, begins⟩ : ∃ schema used,
      Builder.table plan.name plan.mode supply = .ok (schema, used) := by
    unfold Builder.table Builder.fresh Builder.nextIdentity
    simp only [bind, StateT.bind]
    cases supply.isOpen <;> exact ⟨_, _, rfl⟩
  have isTable := Builder.form_of_fresh begins
  have cases := applyAll_cases plan.steps used (.new begins) isTable
  have builds : plan.build supply = applyAll plan.steps schema used := by
    change (Builder.table plan.name plan.mode supply).bind _ = _
    rw [begins]
    rfl
  rw [builds]
  cases taken : applyAll plan.steps schema used with
  | error cause =>
      rw [taken] at cases
      exact cases
  | ok final =>
      rw [taken] at cases
      exact ⟨cases.2, cases.1.isSound cases.2⟩

theorem nodup_declaredNames (plan : TablePlan) : plan.declaredNames.Nodup := by
  refine of_lastWritten (fun fields : List (String × Schema) => (fields.map Prod.fst).Nodup)
    List.nodup_nil ?_
  intro step _ fields written
  cases step with
  | fields shape =>
      cases written
      exact nodup_collectFields shape
  | _ => cases written

theorem reservedNames_table (plan : TablePlan) :
    plan.table.reservedNames = "id" :: plan.endNames := by
  unfold Table.reservedNames endNames
  split <;> simp_all [table, Table.after, Table.named]

theorem fieldNames_table (plan : TablePlan) (isSound : plan.table.IsSound) :
    plan.table.fieldNames = "id" :: (plan.endNames ++
      plan.declaredNames.filter fun name => !("id" :: plan.endNames).contains name) := by
  obtain ⟨reference, identifier, -, shape⟩ := isSound.shape_eq
  have ends : plan.table.endFields.map Prod.fst = plan.endNames := by
    unfold Table.endFields endNames
    split <;> simp_all [table, Table.after, Table.named]
  have own : plan.table.ownFields.map Prod.fst =
      plan.declaredNames.filter fun name => !("id" :: plan.endNames).contains name := by
    rw [Table.ownFields, plan.reservedNames_table, declaredNames, List.filter_map]
    rfl
  rw [Table.fieldNames, shape, List.map_cons, List.map_append, ends, own]

/-- The table of a plan has the shape that the plan asks for. -/
theorem shapes_table (plan : TablePlan) (isSound : plan.table.IsSound) :
    plan.Shapes plan.table := by
  have names := plan.fieldNames_table isSound
  obtain ⟨reference, identifier, isReference, shape⟩ := isSound.shape_eq
  obtain ⟨uniqueEnds, noIdentifier⟩ : plan.endNames.Nodup ∧ "id" ∉ plan.endNames := by
    unfold endNames
    split <;> simp
  refine ⟨names, ?_, ?_, reference, identifier, isReference, ?_⟩
  · rw [names]
    have own := plan.nodup_declaredNames.filter fun name => !("id" :: plan.endNames).contains name
    refine List.nodup_cons.mpr ⟨by simp [noIdentifier], List.nodup_append.mpr ⟨uniqueEnds, own, ?_⟩⟩
    rintro name atEnd other free rfl
    simp [atEnd] at free
  · intro field member atEnd
    rw [shape] at member
    rcases List.mem_cons.mp member with rfl | later
    · exact absurd atEnd noIdentifier
    · rcases List.mem_append.mp later with isEnd | isOwn
      · exact Table.kind_of_mem_endFields isSound isEnd
      · have free := (List.mem_filter.mp isOwn).2
        simp [plan.reservedNames_table, atEnd] at free
  · rw [Table.recordSchema, shape, fieldNamed?, List.lookup_cons_self]
    rfl

/-- Whatever the order and number of the steps, a table is built from the last write to each of its
attributes. A step fails only where the fields then in force declare an identifier that is neither a
reference nor of a kind that describes identifiers. Otherwise the table has the standard shape that
the last writes ask for, and every other way of building with the same last writes that does not fail
gives a table of the same shape and the same definitions. -/
theorem shapes_of_build (plan : TablePlan) (supply : IdentitySupply) :
    match plan.build supply with
    | .error cause => ∃ earlier step later identifier, plan.steps = earlier ++ step :: later ∧
        fieldNamed? "id" (lastWritten writtenFields [] (earlier ++ [step])) = some identifier ∧
        identifier.kind ≠ .reference ∧ identifier.kind.describesIdentifier = false ∧
        cause = .unsuitableIdentifier identifier.kind.name
    | .ok (schema, remaining) => ∃ table, schema.form = .table table ∧ plan.Shapes table ∧
        Method.record.apply schema remaining = .ok (table.recordSchema, remaining) ∧
        ∀ (other : TablePlan) (otherSupply otherRemaining : IdentitySupply) (otherSchema : Schema),
          plan.AgreesWith other → other.build otherSupply = .ok (otherSchema, otherRemaining) →
          ∃ otherTable, otherSchema.form = .table otherTable ∧ otherTable.shape = table.shape ∧
            ∀ (generator : Generator) (options : Option DefineOptions) (overrides : GivenOptions),
              generator.defineTable otherTable options overrides =
                generator.defineTable table options overrides ∧
              generator.defineFields otherTable options overrides =
                generator.defineFields table options overrides := by
  have cases := plan.build_cases supply
  cases builds : plan.build supply with
  | error cause =>
      rw [builds] at cases
      obtain ⟨earlier, step, later, steps, shapeless⟩ := cases
      obtain ⟨identifier, declared, unsuitable⟩ := Table.declares_of_shape?_eq_error shapeless
      exact ⟨earlier, step, later, identifier, steps, declared, unsuitable⟩
  | ok built =>
      obtain ⟨schema, remaining⟩ := built
      rw [builds] at cases
      obtain ⟨isTable, isSound⟩ := cases
      refine ⟨plan.table, isTable, plan.shapes_table isSound, ?_, ?_⟩
      · simp only [Method.apply, isTable]
        rfl
      · intro other otherSupply otherRemaining otherSchema agrees buildsOther
        have otherCases := other.build_cases otherSupply
        rw [buildsOther] at otherCases
        exact ⟨other.table, otherCases.1, by rw [agrees.table_eq], fun generator options overrides =>
          by rw [agrees.table_eq]; exact ⟨rfl, rfl⟩⟩

/-- A relation that is begun as a draft under another name and renamed in the end. -/
def renamedLikes : TablePlan :=
  { name := "like"
    mode := .relation
    steps := [.draft, .fields [("out", .anonymous .symbol), ("since", .anonymous .null)],
      .source (.tables ["user"]) trivial, .normal, .entity, .target (.tables ["post"]) trivial,
      .name "likes"] }

/-- The same relation begun under its name, with its ends set first and its fields declared twice. -/
def directLikes : TablePlan :=
  { name := "likes"
    mode := .any
    steps := [.target (.tables ["post"]) trivial, .source (.tables ["user"]) trivial,
      .fields [("id", .anonymous .any)], .schemaless,
      .fields [("out", .anonymous .symbol), ("since", .anonymous .null)], .nodrop] }

/-- Both ways of building the relation give one shape. -/
theorem shape_directLikes :
    renamedLikes.AgreesWith directLikes ∧
      ∃ schema remaining table otherSchema otherRemaining otherTable,
        renamedLikes.build ⟨0, true⟩ = .ok (schema, remaining) ∧ schema.form = .table table ∧
        table.fieldNames = ["id", "in", "out", "since"] ∧
        directLikes.build ⟨0, true⟩ = .ok (otherSchema, otherRemaining) ∧
        otherSchema.form = .table otherTable ∧ otherTable.shape = table.shape := by
  have agrees : renamedLikes.AgreesWith directLikes := by constructor <;> rfl
  have builds : renamedLikes.build ⟨0, true⟩ =
      .ok (⟨some 7, [], .null, .table renamedLikes.table⟩, ⟨8, true⟩) := rfl
  have buildsOther : directLikes.build ⟨0, true⟩ =
      .ok (⟨some 6, [], .null, .table directLikes.table⟩, ⟨7, true⟩) := rfl
  have built := shapes_of_build renamedLikes ⟨0, true⟩
  rw [builds] at built
  obtain ⟨table, isTable, shapes, -, others⟩ := built
  obtain ⟨otherTable, isOtherTable, sameShape, -⟩ := others directLikes _ _ _ agrees buildsOther
  exact ⟨agrees, _, _, table, _, _, otherTable, builds, isTable, shapes.fieldNames, buildsOther,
    isOtherTable, sameShape⟩

end TablePlan

end TypedTables
