import TypedTables.FieldType.Lowering
import TypedTables.Log.Entry
import TypedTables.Statement.Basic

/-!
# Generating statements

A generator turns tables into statements. The definition of a table is followed by those of its
fields when they are asked for; a field is followed by its children, and so on downwards. Work on
a statement, and the lowering of a field, are blocks of their own in the log.
-/

namespace TypedTables

namespace Traced

/-- A block of work: it ends whether its work succeeds or not. -/
def inBlock {α : Type} (change : ContextChange) (work : Traced α) : Traced α :=
  ⟨.entered change :: (work.events ++ [.left]), work.outcome⟩

/-- A block of work leaves the contexts as they were, when its work does so inside it. -/
theorem followAll_inBlock {α : Type} (change : ContextChange) (work : Traced α)
    (stack : ContextStack)
    (balanced : Log.followAll (stack.enter change) work.events = stack.enter change) :
    Log.followAll stack (inBlock change work).events = stack := by
  have opened : Log.followAll stack (inBlock change work).events =
      Log.followAll (stack.enter change) (work.events ++ [.left]) := rfl
  rw [opened, Log.followAll_append, balanced]
  rfl

def notify (notice : Notice) : Traced Unit := emit (.noticed notice)

end Traced

namespace Schema

/-- The schema that describes identifiers, of a reference that may be optional. -/
def describedIdentifier : Schema → Schema
  | ⟨_, _, _, .optional inner⟩ => describedIdentifier inner
  | ⟨_, _, _, .reference _ identifier⟩ => identifier
  | schema => schema

end Schema

/-- A database that statements are sent to: how it takes a statement after those that were sent
before. -/
structure Connection where
  answer : List String → String → Except Fault Unit

namespace Connection

def reliable : Connection := ⟨fun _ _ => .ok ()⟩

/-- Sends statements one after another, after those that were sent before; the first that is refused
ends it. -/
def send (connection : Connection) : List String → List String → Traced Unit
  | _, [] => .result ()
  | earlier, statement :: rest => do
      Traced.emit (.sent statement)
      Traced.ofExcept (connection.answer earlier statement)
      connection.send (earlier ++ [statement]) rest

end Connection

structure Generator where
  environment : Environment
  defaults : GeneratorDefaults

namespace Generator

/-- The choices for a definition: overrides, options, defaults. -/
def defineChoices (generator : Generator) (options : Option DefineOptions)
    (overrides : GivenOptions) : Except Fault DefineChoices :=
  (DefineOptions.ofGiven overrides).map fun given =>
    (given.overridden (options.getD .unset)).choices generator.defaults

/-- The choice for a removal: overrides, options, defaults. -/
def removeChoice (generator : Generator) (options : Option RemoveOptions)
    (overrides : GivenOptions) : Except Fault MissingPolicy :=
  (RemoveOptions.ofGiven overrides).map fun given =>
    (given.overridden (options.getD .unset)).choice generator.defaults

def tableDefinition (table : Table Schema) (existing : ExistingPolicy) : TableDefinition :=
  { existing
    name := table.name
    mode := table.mode
    source := Table.endpointTables table.source
    target := Table.endpointTables table.target
    drops := table.drops
    isStrict := table.isStrict
    comment := table.comment }

/-- The definition of a field; the identifier of a record has no default. -/
def fieldDefinition (table : String) (choices : DefineChoices) (path : List String)
    (schema : Schema) (lowered : LoweredField) : FieldDefinition :=
  { existing := choices.existing
    path
    table
    type := lowered.type
    isFlexible := lowered.isFlexible
    default :=
      if choices.defaults && lowered.hasDefault && path != ["id"] then some lowered.default
      else none
    comment := schema.description }

/-- The definition of a field, and those of its children after it, through at most so many
levels. -/
def fieldDefinitions (generator : Generator) (table : String) (choices : DefineChoices) :
    Nat → List String → Schema → List Ancestor → Traced (List FieldDefinition)
  | 0, _, _, _ => .fault .tooDeep
  | levels + 1, path, schema, ancestors => do
      let lowered ← Traced.inBlock (.aboutField (Identifier.fieldPath path))
        (schema.lowered ⟨generator.environment, [table]⟩ ancestors)
      let definition := fieldDefinition table choices path schema lowered
      let text ← Traced.ofExcept definition.text
      Traced.notify (.fieldStatement text)
      let below ← Traced.forEach lowered.children fun child =>
        fieldDefinitions generator table choices levels (path ++ child.path) child.schema
          child.ancestors
      return definition :: below.flatten

def fieldTree (generator : Generator) (table : String) (choices : DefineChoices)
    (field : String × Schema) : Traced (List FieldDefinition) :=
  let schema := if field.1 = "id" then field.2.describedIdentifier else field.2
  fieldDefinitions generator table choices (generator.environment.budget schema) [field.1] schema []

def tableFields (generator : Generator) (table : Table Schema) (choices : DefineChoices) :
    Traced (List FieldDefinition) := do
  let trees ← Traced.forEach table.shape (generator.fieldTree table.name choices)
  return trees.flatten

def written (statements : List Statement) : Traced (List String) :=
  .ofExcept (statements.mapM Statement.text)

def defineFields (generator : Generator) (table : Table Schema)
    (options : Option DefineOptions) (overrides : GivenOptions) : Traced (List String) := do
  let choices ← Traced.ofExcept (generator.defineChoices options overrides)
  let definitions ← generator.tableFields table choices
  written (definitions.map .defineField)

def tableStatements (generator : Generator) (table : Table Schema) (choices : DefineChoices) :
    Traced (List String) :=
  Traced.inBlock (.aboutStatement table.name StatementKind.define.name) do
    let head ← written [.defineTable (tableDefinition table choices.existing)]
    let fields ← if choices.fields then generator.tableFields table choices else pure []
    let statements ← written (fields.map .defineField)
    let all := head ++ statements
    Traced.notify (.tableStatements all.length table.name)
    return all

def defineTable (generator : Generator) (table : Table Schema)
    (options : Option DefineOptions) (overrides : GivenOptions) : Traced (List String) := do
  let choices ← Traced.ofExcept (generator.defineChoices options overrides)
  generator.tableStatements table choices

def statements (generator : Generator) (table : Table Schema) (kind : Value)
    (defineOptions : Option DefineOptions) (removeOptions : Option RemoveOptions)
    (overrides : GivenOptions) : Traced (List String) := do
  match ← Traced.ofExcept (StatementKind.ofValue kind) with
  | .define => generator.defineTable table defineOptions overrides
  | .remove =>
      let missing ← Traced.ofExcept (generator.removeChoice removeOptions overrides)
      written [.removeTable missing table.name]
  | .info => written [.describeTable false table.name]
  | .detail => written [.describeTable true table.name]

def registeredTables (generator : Generator) : List (Table Schema) :=
  match generator.environment.registry with
  | some registry => registry.tables.map TableSchema.table
  | none => []

/-- Overrides that ask for fields unless they say otherwise. -/
def askingForFields (overrides : GivenOptions) : GivenOptions :=
  if (overrides.lookup "fields").isSome then overrides
  else overrides ++ [("fields", .boolean true)]

/-- The statements that define several tables, the registered ones when none are given, with
their fields. -/
def defineAll (generator : Generator) (tables : Option (List (Table Schema)))
    (options : Option DefineOptions) (overrides : GivenOptions) : Traced (List String) := do
  let each ← Traced.forEach (tables.getD generator.registeredTables) fun table =>
    generator.defineTable table options (askingForFields overrides)
  let all := each.flatten
  Traced.notify (.allStatements all.length)
  return all

/-- Defines several tables in a database and counts the statements; a rehearsal sends none. All
statements are made before the first of them is sent. -/
def executeOn (generator : Generator) (connection : Connection)
    (tables : Option (List (Table Schema))) (rehearsing : Bool) (options : Option DefineOptions)
    (overrides : GivenOptions) : Traced Nat := do
  let all ← generator.defineAll tables options overrides
  if rehearsing then
    let _ ← Traced.forEach all fun statement => Traced.notify (.dryRun statement)
    return all.length
  else
    connection.send [] all
    Traced.notify (.executed all.length)
    return all.length

/-- Defines several tables in a database that takes every statement. -/
def execute (generator : Generator) (tables : Option (List (Table Schema))) (rehearsing : Bool)
    (overrides : GivenOptions) : Traced Nat :=
  generator.executeOn .reliable tables rehearsing none overrides

end Generator
end TypedTables
