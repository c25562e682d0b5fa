import Mathlib.Logic.Relation
import TypedTables.Table.Registry

/-!
# Schemas reached from a schema

The graph of schemas: a schema leads to its parts, and a lazy schema leads to what it is resolved
to. The parts of a table are the fields of its shape and its catchall, which are what a table runs
and lowers.
-/

namespace TypedTables

/-- The schemas that a form is made of; what a lazy schema stands for is not among them. -/
def Form.parts : Form Schema → List Schema
  | .promise inner | .array inner _ _ | .set inner _ _ | .optional inner | .nullable inner
  | .nonoptional inner | .default inner _ | .prefault inner _ | .fallback inner _
  | .readonly inner | .reference _ inner => [inner]
  | .object shape catchall => shape.map Prod.snd ++ catchall.toList
  | .tuple items rest => items ++ rest.toList
  | .record key value | .map key value => [key, value]
  | .union options => options
  | .intersection left right => [left, right]
  | .pipe source target => [source, target]
  | .table described => described.shape.map Prod.snd ++ [described.catchall]
  | _ => []

/-- A schema is another one, or lies in it at any depth. -/
def Schema.Holds (outer inner : Schema) : Prop :=
  Relation.ReflTransGen (fun whole part => part ∈ whole.form.parts) outer inner

/-- A schema is reached from another through parts and through what lazy schemas stand for. -/
inductive Schema.Reaches (environment : Environment) : Schema → Schema → Prop
  | self (schema : Schema) : Reaches environment schema schema
  | part {schema part target : Schema} (member : part ∈ schema.form.parts)
      (further : Reaches environment part target) : Reaches environment schema target
  | resolved {schema resolved target : Schema} {lazyTarget : LazyTarget Schema}
      (isLazy : schema.form = .lazily lazyTarget)
      (resolves : environment.resolve lazyTarget = .ok resolved)
      (further : Reaches environment resolved target) : Reaches environment schema target

namespace Schema

/-- A property of every schema that is reached from a schema. -/
def Everywhere (environment : Environment) (property : Schema → Prop) (schema : Schema) : Prop :=
  ∀ target, schema.Reaches environment target → property target

namespace Everywhere

variable {environment : Environment} {property : Schema → Prop} {schema : Schema}

theorem here (everywhere : schema.Everywhere environment property) : property schema :=
  everywhere schema (.self schema)

theorem part (everywhere : schema.Everywhere environment property) {part : Schema}
    (member : part ∈ schema.form.parts) : part.Everywhere environment property :=
  fun target further => everywhere target (.part member further)

theorem of_holds (everywhere : schema.Everywhere environment property) {inner : Schema}
    (holds : schema.Holds inner) : inner.Everywhere environment property := by
  induction holds with
  | refl => exact everywhere
  | tail _ member ih => exact ih.part member

theorem resolved (everywhere : schema.Everywhere environment property)
    {lazyTarget : LazyTarget Schema} {resolved : Schema}
    (isLazy : schema.form = .lazily lazyTarget)
    (resolves : environment.resolve lazyTarget = .ok resolved) :
    resolved.Everywhere environment property :=
  fun target further => everywhere target (.resolved isLazy resolves further)

theorem intro (here : property schema)
    (parts : ∀ part ∈ schema.form.parts, part.Everywhere environment property)
    (resolved : ∀ lazyTarget resolved, schema.form = .lazily lazyTarget →
      environment.resolve lazyTarget = .ok resolved →
        resolved.Everywhere environment property) :
    schema.Everywhere environment property := by
  intro target reaches
  cases reaches with
  | self => exact here
  | part member further => exact parts _ member target further
  | resolved isLazy resolves further => exact resolved _ _ isLazy resolves target further

/-- A property of a schema that is not lazy holds everywhere when it holds everywhere in its
parts. -/
theorem of_parts (here : property schema) (eager : ∀ target, schema.form ≠ .lazily target)
    (parts : ∀ part ∈ schema.form.parts, part.Everywhere environment property) :
    schema.Everywhere environment property :=
  intro here parts fun target _ isLazy _ => absurd isLazy (eager target)

theorem of_leaf (here : property schema) (leaf : schema.form.parts = [])
    (eager : ∀ target, schema.form ≠ .lazily target) : schema.Everywhere environment property :=
  of_parts here eager fun part member => by
    rw [leaf] at member
    cases member

theorem of_single {part : Schema} (here : property schema) (single : schema.form.parts = [part])
    (eager : ∀ target, schema.form ≠ .lazily target)
    (inside : part.Everywhere environment property) : schema.Everywhere environment property :=
  of_parts here eager fun other member => by
    rw [single] at member
    rw [List.mem_singleton.mp member]
    exact inside

end Everywhere
end Schema
end TypedTables
