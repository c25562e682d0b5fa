import TypedTables.Table.Registry

/-!
# Heights

The height of a schema is the length of the longest chain of parts in it. A lazy schema that
names its target has no parts; a template is a part. Nothing that follows parts, and goes through
each named target at most once, can take more steps than the budget of a schema.
-/

namespace TypedTables

namespace Height

mutual

def ofSchema : Schema → Nat
  | ⟨_, _, _, form⟩ => ofForm form + 1

/-- The greatest height of a part of a form. -/
def ofForm : Form Schema → Nat
  | .promise inner | .array inner _ _ | .set inner _ _ | .optional inner | .nullable inner
  | .nonoptional inner | .default inner _ | .prefault inner _ | .fallback inner _
  | .readonly inner | .reference _ inner => ofSchema inner
  | .object shape catchall => max (ofFields shape) (ofOption catchall)
  | .tuple items rest => max (ofSchemas items) (ofOption rest)
  | .record key value | .map key value => max (ofSchema key) (ofSchema value)
  | .union options => ofSchemas options
  | .intersection left right => max (ofSchema left) (ofSchema right)
  | .pipe source target => max (ofSchema source) (ofSchema target)
  | .lazily target => ofTarget target
  | .table table => ofTable table
  | _ => 0

def ofSchemas : List Schema → Nat
  | [] => 0
  | schema :: rest => max (ofSchema schema) (ofSchemas rest)

def ofFields : List (String × Schema) → Nat
  | [] => 0
  | (_, schema) :: rest => max (ofSchema schema) (ofFields rest)

def ofOption : Option Schema → Nat
  | none => 0
  | some schema => ofSchema schema

/-- The greatest height of a part of a table. -/
def ofTable : Table Schema → Nat
  | ⟨_, declared, catchall, _, source, target, _, _, _⟩ =>
      max (max (ofFields declared) (ofSchema catchall)) (max (ofOption source) (ofOption target))

def ofTarget : LazyTarget Schema → Nat
  | .template schema => ofSchema schema
  | _ => 0

end
end Height

/-- The length of the longest chain of parts in a schema. -/
def Schema.height (schema : Schema) : Nat := Height.ofSchema schema

/-- The sum of the heights of all named targets. -/
def Environment.height (environment : Environment) : Nat :=
  (environment.definitions.map fun definition => definition.2.height).foldr (· + ·) 0 +
    match environment.registry with
    | none => 0
    | some registry => (registry.tables.map fun table => table.toSchema.height).foldr (· + ·) 0

/-- How many steps a chain can have that starts at a schema and goes through each named target at
most once. -/
def Environment.budget (environment : Environment) (schema : Schema) : Nat :=
  schema.height + environment.height + 1

end TypedTables
