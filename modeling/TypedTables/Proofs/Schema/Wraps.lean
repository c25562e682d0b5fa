import TypedTables.Proofs.Schema.Reach

/-!
# Schemas around a schema

Wrappers and unions hand the value they are given to the schemas inside of them, and a lazy schema
hands it to what it is resolved to. So what a schema does with a value is decided by the schemas that
it wraps in this way, itself among them; what containers hold is not.
-/

namespace TypedTables

namespace Form

/-- The schemas that are given the value that the form is given. -/
def wrapped : Form Schema → List Schema
  | .optional inner | .nullable inner | .nonoptional inner | .default inner _ | .prefault inner _
  | .fallback inner _ | .readonly inner => [inner]
  | .union options => options
  | _ => []

def listed : Form Schema → List Value
  | .enumeration values | .literal values => values
  | _ => []

theorem mem_parts_of_mem_wrapped {form : Form Schema} {inner : Schema}
    (member : inner ∈ form.wrapped) : inner ∈ form.parts := by
  cases form with
  | optional | nullable | nonoptional | default | prefault | fallback | readonly | union =>
      exact member
  | _ => cases member

end Form

theorem Schema.form_of_table? {schema : Schema} {table : Table Schema}
    (isTable : schema.table? = some table) : schema.form = .table table := by
  unfold table? at isTable
  split at isTable
  · rename_i found
    rw [found, Option.some.inj isTable]
  · cases isTable

theorem Schema.form_of_kind_eq_reference {schema : Schema}
    (isReference : schema.kind = .reference) :
    ∃ tables identifier, schema.form = .reference tables identifier := by
  rcases schema with ⟨identity, refinements, description, form⟩
  cases form with
  | reference tables identifier => exact ⟨tables, identifier, rfl⟩
  | text rules =>
      cases format : rules.format <;> simp [Schema.kind, Form.kind, format] at isReference
  | _ => cases isReference

/-- A schema comes to another through wrappers, unions and lazy schemas only. -/
inductive Schema.Wraps (environment : Environment) : Schema → Schema → Prop
  | self (schema : Schema) : Wraps environment schema schema
  | wrapped {schema inner target : Schema} (member : inner ∈ schema.form.wrapped)
      (further : Wraps environment inner target) : Wraps environment schema target
  | resolved {schema resolved target : Schema} {lazyTarget : LazyTarget Schema}
      (isLazy : schema.form = .lazily lazyTarget)
      (resolves : environment.resolve lazyTarget = .ok resolved)
      (further : Wraps environment resolved target) : Wraps environment schema target

namespace Schema

variable {environment : Environment} {schema : Schema}

theorem Wraps.reaches {target : Schema} (wraps : schema.Wraps environment target) :
    schema.Reaches environment target := by
  induction wraps with
  | self schema => exact .self schema
  | wrapped member _ ih => exact .part (Form.mem_parts_of_mem_wrapped member) ih
  | resolved isLazy resolves _ ih => exact .resolved isLazy resolves ih

/-- A property of every schema that is wrapped, the schema itself among them. -/
def WrapsOnly (environment : Environment) (property : Schema → Prop) (schema : Schema) : Prop :=
  ∀ target, schema.Wraps environment target → property target

namespace WrapsOnly

variable {property : Schema → Prop}

theorem here (only : schema.WrapsOnly environment property) : property schema :=
  only schema (.self schema)

theorem wrapped (only : schema.WrapsOnly environment property) {inner : Schema}
    (member : inner ∈ schema.form.wrapped) : inner.WrapsOnly environment property :=
  fun target further => only target (.wrapped member further)

theorem resolved (only : schema.WrapsOnly environment property)
    {lazyTarget : LazyTarget Schema} {resolved : Schema}
    (isLazy : schema.form = .lazily lazyTarget)
    (resolves : environment.resolve lazyTarget = .ok resolved) :
    resolved.WrapsOnly environment property :=
  fun target further => only target (.resolved isLazy resolves further)

theorem of_everywhere (everywhere : schema.Everywhere environment property) :
    schema.WrapsOnly environment property :=
  fun target wraps => everywhere target wraps.reaches

theorem of_bare (here : property schema) (bare : schema.form.wrapped = [])
    (eager : ∀ target, schema.form ≠ .lazily target) : schema.WrapsOnly environment property := by
  intro target wraps
  cases wraps with
  | self => exact here
  | wrapped member _ =>
      rw [bare] at member
      cases member
  | resolved isLazy _ _ => exact absurd isLazy (eager _)

end WrapsOnly
end Schema
end TypedTables
