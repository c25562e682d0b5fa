import Mathlib.Logic.Relation
import TypedTables.Proofs.Schema.Heights

/-!
# Schemas without identities

One schema may stand in several places of another: its identity tells that the places hold the same
schema. A schema without identities is what remains when this is forgotten: two schemas are built
alike, whichever schemas they share, when they are the same without identities.
-/

namespace TypedTables

open Relation (TransGen)

namespace Unidentified

mutual

def ofSchema : Schema → Schema
  | ⟨_, refinements, description, form⟩ => ⟨none, refinements, description, ofForm form⟩

/-- A form over parts without identities; a form without parts stays. -/
def ofForm : Form Schema → Form Schema
  | .promise inner => .promise (ofSchema inner)
  | .object shape catchall => .object (ofFields shape) (ofOption catchall)
  | .array element least most => .array (ofSchema element) least most
  | .set element least most => .set (ofSchema element) least most
  | .tuple items rest => .tuple (ofSchemas items) (ofOption rest)
  | .record key value => .record (ofSchema key) (ofSchema value)
  | .map key value => .map (ofSchema key) (ofSchema value)
  | .union options => .union (ofSchemas options)
  | .intersection left right => .intersection (ofSchema left) (ofSchema right)
  | .optional inner => .optional (ofSchema inner)
  | .nullable inner => .nullable (ofSchema inner)
  | .nonoptional inner => .nonoptional (ofSchema inner)
  | .default inner value => .default (ofSchema inner) value
  | .prefault inner value => .prefault (ofSchema inner) value
  | .fallback inner replacement => .fallback (ofSchema inner) replacement
  | .readonly inner => .readonly (ofSchema inner)
  | .pipe source target => .pipe (ofSchema source) (ofSchema target)
  | .lazily target => .lazily (ofTarget target)
  | .reference tables identifier => .reference tables (ofSchema identifier)
  | .table table => .table (ofTable table)
  | leaf => leaf

def ofSchemas : List Schema → List Schema
  | [] => []
  | schema :: rest => ofSchema schema :: ofSchemas rest

def ofFields : List (String × Schema) → List (String × Schema)
  | [] => []
  | (name, schema) :: rest => (name, ofSchema schema) :: ofFields rest

def ofOption : Option Schema → Option Schema
  | none => none
  | some schema => some (ofSchema schema)

def ofTable : Table Schema → Table Schema
  | ⟨name, declared, catchall, mode, source, target, drops, comment, isDraft⟩ =>
      ⟨name, ofFields declared, ofSchema catchall, mode, ofOption source, ofOption target, drops,
        comment, isDraft⟩

def ofTarget : LazyTarget Schema → LazyTarget Schema
  | .template schema => .template (ofSchema schema)
  | .table name => .table name
  | .definition name => .definition name
  | .unbuildable cause => .unbuildable cause

end

theorem ofSchemas_eq_map (schemas : List Schema) : ofSchemas schemas = schemas.map ofSchema := by
  induction schemas with
  | nil => rfl
  | cons schema rest ih =>
      rw [List.map_cons, ← ih]
      rfl

theorem ofFields_eq_map (fields : List (String × Schema)) :
    ofFields fields = fields.map fun field => (field.1, ofSchema field.2) := by
  induction fields with
  | nil => rfl
  | cons field rest ih =>
      rw [List.map_cons, ← ih]
      rfl

theorem ofOption_eq_map (schema : Option Schema) : ofOption schema = schema.map ofSchema := by
  cases schema <;> rfl

theorem kind_ofForm (form : Form Schema) : (ofForm form).kind = form.kind := by
  cases form <;> rfl

mutual

theorem height_ofSchema (schema : Schema) :
    Height.ofSchema (ofSchema schema) = Height.ofSchema schema := by
  rcases schema with ⟨identity, refinements, description, form⟩
  simp only [ofSchema, Height.ofSchema, height_ofForm form]

theorem height_ofForm (form : Form Schema) : Height.ofForm (ofForm form) = Height.ofForm form := by
  cases form with
  | promise inner | array inner least most | set inner least most | optional inner | nullable inner
  | nonoptional inner | default inner value | prefault inner value | fallback inner value
  | readonly inner | reference tables inner =>
      simp only [ofForm, Height.ofForm, height_ofSchema inner]
  | object shape catchall =>
      simp only [ofForm, Height.ofForm, height_ofFields shape, height_ofOption catchall]
  | tuple items rest =>
      simp only [ofForm, Height.ofForm, height_ofSchemas items, height_ofOption rest]
  | record first second | map first second | intersection first second | pipe first second =>
      simp only [ofForm, Height.ofForm, height_ofSchema first, height_ofSchema second]
  | union options => simp only [ofForm, Height.ofForm, height_ofSchemas options]
  | lazily target => simp only [ofForm, Height.ofForm, height_ofTarget target]
  | table described => simp only [ofForm, Height.ofForm, height_ofTable described]
  | _ => rfl

theorem height_ofSchemas (schemas : List Schema) :
    Height.ofSchemas (ofSchemas schemas) = Height.ofSchemas schemas := by
  cases schemas with
  | nil => rfl
  | cons schema rest =>
      simp only [ofSchemas, Height.ofSchemas, height_ofSchema schema, height_ofSchemas rest]

theorem height_ofFields (fields : List (String × Schema)) :
    Height.ofFields (ofFields fields) = Height.ofFields fields := by
  cases fields with
  | nil => rfl
  | cons field rest =>
      rcases field with ⟨name, schema⟩
      simp only [ofFields, Height.ofFields, height_ofSchema schema, height_ofFields rest]

theorem height_ofOption (schema : Option Schema) :
    Height.ofOption (ofOption schema) = Height.ofOption schema := by
  cases schema with
  | none => rfl
  | some schema => simp only [ofOption, Height.ofOption, height_ofSchema schema]

theorem height_ofTable (table : Table Schema) :
    Height.ofTable (ofTable table) = Height.ofTable table := by
  rcases table with ⟨name, declared, catchall, mode, source, target, drops, comment, isDraft⟩
  simp only [ofTable, Height.ofTable, height_ofFields declared, height_ofSchema catchall,
    height_ofOption source, height_ofOption target]

theorem height_ofTarget (target : LazyTarget Schema) :
    Height.ofTarget (ofTarget target) = Height.ofTarget target := by
  cases target with
  | template schema => simp only [ofTarget, Height.ofTarget, height_ofSchema schema]
  | _ => rfl

end
end Unidentified

namespace Schema

/-- The schema without identities: what it is like, whichever schemas it shares. -/
def unidentified (schema : Schema) : Schema := Unidentified.ofSchema schema

variable (schema : Schema)

@[simp] theorem identity_unidentified : schema.unidentified.identity = none := by
  cases schema
  rfl

@[simp] theorem description_unidentified :
    schema.unidentified.description = schema.description := by
  cases schema
  rfl

theorem form_unidentified : schema.unidentified.form = Unidentified.ofForm schema.form := by
  cases schema
  rfl

@[simp] theorem kind_unidentified : schema.unidentified.kind = schema.kind := by
  rw [kind, form_unidentified, Unidentified.kind_ofForm]
  rfl

@[simp] theorem height_unidentified : schema.unidentified.height = schema.height :=
  Unidentified.height_ofSchema schema

end Schema

theorem Environment.budget_unidentified (environment : Environment) (schema : Schema) :
    environment.budget schema.unidentified = environment.budget schema := by
  rw [budget, schema.height_unidentified, budget]

namespace Schema

/-- A schema is a part of another one, or a part of a part, and so on. -/
def LiesIn (inner outer : Schema) : Prop :=
  TransGen (fun whole part => part ∈ whole.form.parts) outer inner

/-- A schema without lazy ones in which none lies in itself; in different places it may hold one and
the same schema. -/
structure IsTree (schema : Schema) : Prop where
  eager : ∀ inner, schema.Holds inner → ∀ target, inner.form ≠ .lazily target
  apart : ∀ outer, schema.Holds outer → ∀ inner, inner.LiesIn outer → outer.isSame inner = false

theorem IsTree.part {schema part : Schema} (isTree : schema.IsTree)
    (member : part ∈ schema.form.parts) : part.IsTree where
  eager := fun inner holds => isTree.eager inner (.head member holds)
  apart := fun outer holds => isTree.apart outer (.head member holds)

theorem IsTree.of_holds {schema inner : Schema} (isTree : schema.IsTree)
    (holds : schema.Holds inner) : inner.IsTree := by
  induction holds with
  | refl => exact isTree
  | tail _ member ih => exact ih.part member

theorem forall_holds_iff {schema : Schema} {property : Schema → Prop} :
    (∀ inner, schema.Holds inner → property inner) ↔
      property schema ∧
        ∀ part ∈ schema.form.parts, ∀ inner, part.Holds inner → property inner := by
  refine ⟨fun holds => ⟨holds schema .refl, fun part member inner below =>
    holds inner (.head member below)⟩, ?_⟩
  rintro ⟨own, parts⟩ inner below
  rcases Relation.ReflTransGen.cases_head below with rfl | ⟨part, member, further⟩
  · exact own
  · exact parts part member inner further

/-- A tree is a schema that is not lazy, made of trees, in none of which it lies. -/
theorem isTree_iff {schema : Schema} :
    schema.IsTree ↔ (∀ target, schema.form ≠ .lazily target) ∧
      ∀ part ∈ schema.form.parts, part.IsTree ∧
        ∀ inner, part.Holds inner → schema.isSame inner = false := by
  refine ⟨fun isTree => ⟨isTree.eager schema .refl, fun part member => ⟨isTree.part member,
    fun inner holds => isTree.apart schema .refl inner (.head' member holds)⟩⟩, ?_⟩
  rintro ⟨eager, parts⟩
  refine ⟨forall_holds_iff.mpr ⟨eager, fun part member => (parts part member).1.eager⟩,
    forall_holds_iff.mpr ⟨fun inner liesIn => ?_, fun part member => (parts part member).1.apart⟩⟩
  obtain ⟨part, member, holds⟩ := TransGen.head'_iff.mp liesIn
  exact (parts part member).2 inner holds

theorem isTree_of_anonymous {schema : Schema} (anonymous : schema.identity = none)
    (eager : ∀ target, schema.form ≠ .lazily target)
    (parts : ∀ part ∈ schema.form.parts, part.IsTree) : schema.IsTree :=
  isTree_iff.mpr ⟨eager, fun part member => ⟨parts part member, fun inner _ => by
    unfold isSame
    rw [anonymous]⟩⟩

end Schema
end TypedTables
