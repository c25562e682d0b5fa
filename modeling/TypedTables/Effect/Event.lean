import TypedTables.Log.Context

/-!
# Events

What a computation lets an observer see while it runs: calls of user functions and suppliers,
awaitable values that are awaited, notices for the log, the blocks of work the notices belong to, and
statements that are sent to a database. A notice is data; its level, its component and its wording
are given here.
-/

namespace TypedTables

/-- The parts of the library that write to the log. -/
inductive Component where
  | lowering
  | generator
  | validation
  | registry
  deriving DecidableEq, Repr

namespace Component

def name : Component → String
  | .lowering => "lowering"
  | .generator => "generator"
  | .validation => "validation"
  | .registry => "registry"

/-- The name under which a part writes to the log. -/
def loggerName : Component → String
  | .lowering => "surreal_schema.schema.lowering"
  | .generator => "surreal_schema.schema.surql_generator"
  | .validation => "surreal_schema.validation.composite"
  | .registry => "surreal_schema.registry"

def ofName? (text : String) : Option Component :=
  [lowering, generator, validation, registry].find? fun component => component.name == text

end Component

inductive NoticeLevel where
  | debug
  | info
  deriving DecidableEq, Repr

def NoticeLevel.name : NoticeLevel → String
  | .debug => "DEBUG"
  | .info => "INFO"

/-- Something the log is told. -/
inductive Notice where
  | strippedKeys (count : Nat)
  | registeredTable (table : String)
  | ancestorLoweredAsAny (kind : String)
  | tableLoweredAsAny (table : String)
  | fieldStatement (statement : String)
  | tableStatements (count : Nat) (table : String)
  | allStatements (count : Nat)
  | dryRun (statement : String)
  | executed (count : Nat)
  deriving DecidableEq, Repr

namespace Notice

def component : Notice → Component
  | .strippedKeys _ => .validation
  | .registeredTable _ => .registry
  | .ancestorLoweredAsAny _ | .tableLoweredAsAny _ => .lowering
  | .fieldStatement _ | .tableStatements .. | .allStatements _ | .dryRun _ | .executed _ =>
      .generator

/-- Details are for debugging, results are information. -/
def level : Notice → NoticeLevel
  | .tableStatements .. | .allStatements _ | .dryRun _ | .executed _ => .info
  | _ => .debug

/-- The wording of a notice; a statement that is only rehearsed is cut after 100 characters. -/
def message : Notice → String
  | .strippedKeys count => s!"Stripping {count} unrecognized key(s)"
  | .registeredTable table => s!"Registered table: {table}"
  | .ancestorLoweredAsAny kind => s!"Lazy reference to ancestor {kind} lowered as any"
  | .tableLoweredAsAny table => s!"Lazy reference to table '{table}' lowered as any"
  | .fieldStatement statement => s!"Generated field statement: {statement}"
  | .tableStatements count table => s!"Generated {count} DEFINE statements for table {table}"
  | .allStatements count => s!"Generated {count} DDL statements"
  | .dryRun statement => s!"[DRY RUN] {String.ofList (statement.toList.take 100)}"
  | .executed count => s!"Executed {count} DDL statements"

end Notice

/-- Something an observer of a computation sees. -/
inductive Event where
  /-- A user function, or a supplier, was called. -/
  | called (name : String) (argument : Value)
  /-- An awaitable value was awaited. Were that to fail, the fault would come out so many rounds
  later. -/
  | awaited (token lag : Nat)
  | noticed (notice : Notice)
  /-- A block of work begins that changes the context of the notices in it. -/
  | entered (change : ContextChange)
  /-- The innermost block of work ends. -/
  | left
  /-- A statement was sent to the database. -/
  | sent (statement : String)

namespace Event

def awaited? : Event → Option Nat
  | .awaited token _ => some token
  | _ => none

/-- An event in a piece of work that others wait for: a fault comes out two rounds later. -/
def delayed : Event → Event
  | .awaited token lag => .awaited token (lag + 2)
  | other => other

@[simp] theorem awaited?_delayed (event : Event) : event.delayed.awaited? = event.awaited? := by
  cases event <;> rfl

end Event
end TypedTables
