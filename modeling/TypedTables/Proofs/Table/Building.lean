import TypedTables.Proofs.Effect.Settling
import TypedTables.Proofs.Table.Shape
import TypedTables.Schema.Method

/-!
# Tables that can be built

A table is built from a new one by methods, each of which makes a new table schema of the one
before. Whatever the order of the methods, the table keeps a shape, and what was set as an endpoint
is a reference to records.
-/

namespace TypedTables

def Endpoint.IsReference : Endpoint → Prop
  | .tables _ => True
  | .reference schema => schema.kind = .reference

theorem Endpoint.IsReference.kind_eq {endpoint : Endpoint} (isReference : endpoint.IsReference) :
    (Method.endpointReference endpoint).kind = .reference := by
  cases endpoint with
  | tables names => rfl
  | reference schema => exact isReference

def Method.TakesReference : Method → Prop
  | .source endpoint | .target endpoint => endpoint.IsReference
  | _ => True

/-- The table schemas that building reaches: a new table, and what a method makes of a table schema
that was reached, as long as it is a table schema again. -/
inductive Schema.IsBuiltTable : Schema → Prop
  | new {name : String} {mode : TableMode} {supply remaining : IdentitySupply} {schema : Schema}
      (builds : Builder.table name mode supply = .ok (schema, remaining)) : IsBuiltTable schema
  | next {method : Method} {supply remaining : IdentitySupply} {schema result : Schema}
      {table : Table Schema} (isBuilt : IsBuiltTable schema)
      (takesReference : method.TakesReference)
      (builds : method.apply schema supply = .ok (result, remaining))
      (isTable : result.form = .table table) : IsBuiltTable result

/-- A table has a shape, and its endpoints are references to records. -/
structure Table.IsSound (table : Table Schema) : Prop where
  shape : ∃ fields, table.shape? = .ok fields
  source : ∀ endpoint, table.source = some endpoint → endpoint.kind = .reference
  target : ∀ endpoint, table.target = some endpoint → endpoint.kind = .reference

namespace Builder

/-- Building in two steps succeeds when both steps do. -/
theorem bind_eq_ok {α β : Type} {first : Builder α} {next : α → Builder β}
    {supply remaining : IdentitySupply} {result : β}
    (builds : (first >>= next) supply = .ok (result, remaining)) :
    ∃ value used, first supply = .ok (value, used) ∧
      next value used = .ok (result, remaining) := by
  simp only [bind, StateT.bind] at builds
  cases begins : first supply with
  | error cause =>
      rw [begins] at builds
      cases builds
  | ok built =>
      rw [begins] at builds
      exact ⟨built.1, built.2, rfl, builds⟩

variable {schema result : Schema} {supply remaining : IdentitySupply}

theorem exists_identity {make : Option Nat → Schema}
    (builds : (nextIdentity >>= fun identity => pure (make identity)) supply =
      .ok (result, remaining)) : ∃ identity, result = make identity := by
  obtain ⟨identity, used, -, makes⟩ := bind_eq_ok builds
  cases makes
  exact ⟨identity, rfl⟩

theorem form_of_fresh {form : Form Schema} (builds : fresh form supply = .ok (result, remaining)) :
    result.form = form := by
  obtain ⟨identity, rfl⟩ := exists_identity builds
  rfl

theorem form_of_reshape {form : Form Schema}
    (builds : reshape schema form supply = .ok (result, remaining)) : result.form = form := by
  obtain ⟨identity, rfl⟩ := exists_identity builds
  rfl

theorem form_of_withRefinements {refinements : List Refinement}
    (builds : withRefinements schema refinements supply = .ok (result, remaining)) :
    result.form = schema.form := by
  obtain ⟨identity, rfl⟩ := exists_identity builds
  rfl

theorem form_of_withDescription {description : Value}
    (builds : withDescription schema description supply = .ok (result, remaining)) :
    result.form = schema.form := by
  obtain ⟨identity, rfl⟩ := exists_identity builds
  rfl

theorem form_of_withTable {table : Table Schema}
    (builds : withTable schema table supply = .ok (result, remaining)) :
    (∃ fields, table.shape? = .ok fields) ∧ result.form = .table table := by
  obtain ⟨checked, used, checks, reshapes⟩ := bind_eq_ok builds
  unfold Table.checked at checks
  cases shape : table.shape? with
  | error cause =>
      rw [shape] at checks
      cases checks
  | ok fields =>
      rw [shape] at checks
      cases checks
      exact ⟨⟨fields, rfl⟩, form_of_reshape reshapes⟩

end Builder

namespace Table

variable (table : Table Schema)

theorem kind_recordReference {reference : Schema}
    (refers : table.recordReference = .ok reference) : reference.kind = .reference := by
  obtain ⟨identifier, isReference, -⟩ := recordReference_eq_ok refers
  rw [Schema.kind, isReference]
  rfl

theorem kind_recordSchema :
    table.recordSchema.kind = .reference ∨ table.recordSchema.kind = .optional := by
  unfold recordSchema shape shape? identifierField
  cases refers : table.recordReference with
  | error cause => exact Or.inl rfl
  | ok reference =>
      by_cases draft : table.isDraft
      · right
        simp only [Except.map, draft, if_true, fieldNamed?, List.lookup_cons_self, Option.getD_some]
        rfl
      · left
        simpa [Except.map, draft, fieldNamed?] using table.kind_recordReference refers

end Table

section Methods

open Method

variable {schema result : Schema} {table changed : Table Schema} {method : Method}
  {supply remaining : IdentitySupply}

theorem Method.form_of_onTable {name : String} {change : Table Schema → Table Schema}
    (isTable : schema.form = .table table)
    (builds : onTable schema name change supply = .ok (result, remaining)) :
    (∃ fields, (change table).shape? = .ok fields) ∧ result.form = .table (change table) := by
  unfold onTable at builds
  rw [isTable] at builds
  exact Builder.form_of_withTable builds

/-- A method that makes a table schema of a table schema keeps the table, or makes a table of a shape
from it whose endpoints are those before or what the method was given. -/
theorem Table.IsSound.of_apply (isSound : table.IsSound) (takesReference : method.TakesReference)
    (isTable : schema.form = .table table)
    (builds : method.apply schema supply = .ok (result, remaining))
    (remains : result.form = .table changed) : changed.IsSound := by
  have same (kept : result.form = schema.form) : changed.IsSound := by
    rw [kept, isTable] at remains
    cases remains
    exact isSound
  have other {form : Form Schema} (isForm : result.form = form)
      (noTable : ∀ table, form ≠ .table table) : changed.IsSound :=
    absurd (isForm.symm.trans remains) (noTable changed)
  have onTable {name : String} {change : Table Schema → Table Schema}
      (sources : ∀ endpoint, (change table).source = some endpoint → endpoint.kind = .reference)
      (targets : ∀ endpoint, (change table).target = some endpoint → endpoint.kind = .reference)
      (builds : Method.onTable schema name change supply = .ok (result, remaining)) :
      changed.IsSound := by
    obtain ⟨shape, form⟩ := form_of_onTable isTable builds
    rw [form] at remains
    cases remains
    exact ⟨shape, sources, targets⟩
  cases method with
  | refine check message => exact same (Builder.form_of_withRefinements builds)
  | describe description => exact same (Builder.form_of_withDescription builds)
  | optional | nullable | nonoptional | default | prefault | fallback | readonly | pipe | array
  | and => exact other (Builder.form_of_fresh builds) (by simp)
  | nullish | transform =>
      obtain ⟨inner, used, -, wraps⟩ := Builder.bind_eq_ok builds
      exact other (Builder.form_of_fresh wraps) (by simp)
  | strict | loose =>
      obtain ⟨inner, used, -, changes⟩ := Builder.bind_eq_ok builds
      unfold onObject at changes
      rw [isTable] at changes
      cases changes
  | or option =>
      unfold Method.apply at builds
      rw [isTable] at builds
      exact other (Builder.form_of_fresh builds) (by simp)
  | record =>
      unfold Method.apply at builds
      rw [isTable] at builds
      cases builds
      have isTableKind : table.recordSchema.kind = .table := by
        rw [Schema.kind, remains]
        rfl
      rcases table.kind_recordSchema with kind | kind <;>
        exact absurd (kind.symm.trans isTableKind) (by decide)
  | name | fields | schemafull | schemaless | any | normal | relation | drop | nodrop | comment
  | draft | entity => exact onTable isSound.source isSound.target builds
  | source endpoint =>
      refine onTable ?_ isSound.target builds
      rintro reference ⟨⟩
      exact takesReference.kind_eq
  | target endpoint =>
      refine onTable isSound.source ?_ builds
      rintro reference ⟨⟩
      exact takesReference.kind_eq
  | _ =>
      -- No other method is one of tables.
      simp only [Method.apply, setLeast, setMost, setLength, onNumber, onObject, unwrapped,
        isTable] at builds
      cases builds

end Methods

theorem Schema.IsBuiltTable.exists_isSound {schema : Schema} (isBuilt : schema.IsBuiltTable) :
    ∃ table, schema.form = .table table ∧ table.IsSound := by
  induction isBuilt with
  | new builds =>
      refine ⟨_, Builder.form_of_fresh builds, ⟨_, rfl⟩, ?_, ?_⟩
      · rintro endpoint ⟨⟩
      · rintro endpoint ⟨⟩
  | next _ takesReference builds isTable ih =>
      obtain ⟨before, wasTable, isSound⟩ := ih
      exact ⟨_, isTable, isSound.of_apply takesReference wasTable builds isTable⟩

/-- Every table that can be built is sound. -/
theorem Schema.IsBuiltTable.isSound {schema : Schema} (isBuilt : schema.IsBuiltTable)
    {table : Table Schema} (isTable : schema.form = .table table) : table.IsSound := by
  obtain ⟨built, isBuiltTable, isSound⟩ := isBuilt.exists_isSound
  cases isTable.symm.trans isBuiltTable
  exact isSound

end TypedTables
