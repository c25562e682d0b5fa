import TypedTables.Effect.Traced
import TypedTables.Table.Shape
import TypedTables.Text.Quoted
import TypedTables.Value.Equality

/-!
# Registries and environments

A registry holds tables in the order of their registration, at most one of each name; a table
that replaces another takes its place. An environment is what lazy schemas are resolved in: named
definitions, and a registry where there is one.
-/

namespace TypedTables

structure TableSchema where
  identity : Option Nat
  refinements : List Refinement
  description : Value
  table : Table Schema

namespace TableSchema

def toSchema (table : TableSchema) : Schema :=
  { identity := table.identity, refinements := table.refinements
    description := table.description, form := .table table.table }

def ofSchema? (schema : Schema) : Option TableSchema :=
  schema.table?.map fun table =>
    { identity := schema.identity, refinements := schema.refinements
      description := schema.description, table }

def name (table : TableSchema) : String := table.table.name

end TableSchema

structure Registry where
  tables : List TableSchema

namespace Registry

def empty : Registry := ⟨[]⟩

def names (registry : Registry) : List String := registry.tables.map TableSchema.name

def contains (registry : Registry) (name : String) : Bool := registry.names.contains name

/-- Any value may be looked for, but only a text can be the name of a table. -/
def containsValue (registry : Registry) (value : Value) : Except Fault Bool :=
  match value.unhashableClass? with
  | some className => .error (.unhashable className)
  | none =>
      .ok (match value with
        | .text name => registry.contains name
        | _ => false)

def get (registry : Registry) (name : String) : Except Fault TableSchema :=
  match registry.tables.find? fun table => table.name == name with
  | some table => .ok table
  | none => .error (.tableNotFound name)

/-- Puts a table in the place of the one with its name, or at the end. -/
def put (table : TableSchema) : List TableSchema → List TableSchema
  | [] => [table]
  | present :: rest =>
      if present.name = table.name then table :: rest else present :: put table rest

theorem map_name_put (table : TableSchema) (tables : List TableSchema) :
    (put table tables).map TableSchema.name =
      if table.name ∈ tables.map TableSchema.name then tables.map TableSchema.name
      else tables.map TableSchema.name ++ [table.name] := by
  induction tables with
  | nil => simp [put]
  | cons present rest ih =>
      by_cases same : present.name = table.name
      · simp [put, same]
      · have other : table.name ≠ present.name := fun equal => same equal.symm
        by_cases later : table.name ∈ rest.map TableSchema.name <;> simp_all [put]

theorem find_put_self (table : TableSchema) (tables : List TableSchema) :
    (put table tables).find? (fun present => present.name == table.name) = some table := by
  induction tables with
  | nil => simp [put]
  | cons present rest ih =>
      by_cases same : present.name = table.name
      · simp [put, same]
      · simp [put, same, ih]

/-- Putting a table leaves the tables of other names as they are. -/
theorem find_put_of_ne {table : TableSchema} {name : String} (other : table.name ≠ name)
    (tables : List TableSchema) :
    (put table tables).find? (fun present => present.name == name) =
      tables.find? (fun present => present.name == name) := by
  induction tables with
  | nil => simp [put, other]
  | cons present rest ih =>
      by_cases same : present.name = table.name
      · have otherPresent : present.name ≠ name := by
          rw [same]
          exact other
        simp [put, same, other]
      · rw [put, if_neg same]
        by_cases found : present.name = name
        · simp [found]
        · simp [found, ih]

/-- Registers a table; a name that is taken is refused unless it is to be replaced. -/
def register (registry : Registry) (table : TableSchema) (replacing : Bool) : Traced Registry :=
  if registry.contains table.name && !replacing then .fault (.duplicateTable table.name)
  else
    (Traced.emit (.noticed (.registeredTable table.name))).andThen fun _ =>
      .result ⟨put table registry.tables⟩

def unregister (registry : Registry) (name : String) : Except Fault Registry :=
  if registry.contains name then
    .ok ⟨registry.tables.filter fun table => table.name != name⟩
  else .error (.tableNotFound name)

def registerAll : Registry → List TableSchema → Traced Registry
  | registry, [] => .result registry
  | registry, table :: rest =>
      (registry.register table false).andThen fun grown => registerAll grown rest

def ofTables (tables : List TableSchema) : Traced Registry := registerAll empty tables

def label (registry : Registry) : String :=
  let shown := ", ".intercalate (registry.names.map Text.quoted)
  s!"<TableRegistry tables=[{shown}]>"

end Registry

structure Environment where
  definitions : List (String × Schema)
  registry : Option Registry

namespace Environment

def resolve (environment : Environment) : LazyTarget Schema → Except Fault Schema
  | .table name =>
      match environment.registry with
      | none => .error (.noRegistry name)
      | some registry => (registry.get name).map TableSchema.toSchema
  | .definition name =>
      match fieldNamed? name environment.definitions with
      | some schema => .ok schema
      | none => .error (.unknownDefinition name)
  | .template schema => .ok schema
  | .unbuildable cause => .error cause

end Environment
end TypedTables
