import TypedTables.Log.Datum

/-!
# Log contexts

A log context says what a piece of work is about: a table, a field, a statement, a component, an
operation, and any number of further entries. Blocks of work nest, and each may change the
context: a part that a block names replaces the part around it, also by null, and further entries
are added to those around it. The contexts of the open blocks form a stack.
-/

namespace TypedTables

/-- A context; a part that is null is not there. -/
structure LogContext where
  table : Datum
  field : Datum
  statement : Datum
  component : Datum
  operation : Datum
  extra : List (Datum × Datum)

/-- What a block of work changes: the parts it names and the entries it adds. -/
structure ContextChange where
  table : Option Datum
  field : Option Datum
  statement : Option Datum
  component : Option Datum
  operation : Option Datum
  extra : List (Datum × Datum)

namespace ContextChange

def nothing : ContextChange := ⟨none, none, none, none, none, []⟩

def aboutStatement (table statement : String) : ContextChange :=
  { nothing with table := some (.ofText table), statement := some (.ofText statement) }

def aboutField (field : String) : ContextChange := { nothing with field := some (.ofText field) }

def entriesOf (datum : Datum) : Except Fault (List (Datum × Datum)) :=
  match datum.entries? with
  | some entries => .ok entries
  | none => .error (.operand s!"'{datum.className}' object is not a mapping")

end ContextChange

namespace LogContext

def empty : LogContext := ⟨.null, .null, .null, .null, .null, []⟩

def changed (outer : LogContext) (change : ContextChange) : LogContext :=
  { table := change.table.getD outer.table
    field := change.field.getD outer.field
    statement := change.statement.getD outer.statement
    component := change.component.getD outer.component
    operation := change.operation.getD outer.operation
    extra := Datum.putAll outer.extra change.extra }

def parts (context : LogContext) : List (List Point × Datum) :=
  [(Point.ofText "table", context.table), (Point.ofText "field", context.field),
    (Point.ofText "statement", context.statement), (Point.ofText "component", context.component),
    (Point.ofText "operation", context.operation)]

/-- The parts that are there, unfolded and in their order. -/
def presentParts : List (List Point × Datum) → Except Fault (List (Datum × Datum))
  | [] => .ok []
  | (name, datum) :: rest =>
      datum.unfolded.bind fun part =>
        (presentParts rest).map fun others =>
          if part.isNull then others else (.text name, part) :: others

/-- The entries of a context: its parts, and then its further entries, which replace parts of the
same name. -/
def entries (context : LogContext) : Except Fault (List (Datum × Datum)) :=
  (presentParts context.parts).bind fun named =>
    (Datum.mapping context.extra).unfolded.map fun _ => Datum.putAll named context.extra

end LogContext

/-- The contexts of the open blocks, the innermost first. -/
structure ContextStack where
  contexts : List LogContext

namespace ContextStack

def empty : ContextStack := ⟨[]⟩

def current (stack : ContextStack) : LogContext := stack.contexts.head?.getD .empty

def enter (change : ContextChange) (stack : ContextStack) : ContextStack :=
  ⟨stack.current.changed change :: stack.contexts⟩

/-- Closes the innermost block. -/
def leave (stack : ContextStack) : ContextStack := ⟨stack.contexts.tail⟩

@[simp] theorem leave_enter (change : ContextChange) (stack : ContextStack) :
    (stack.enter change).leave = stack := rfl

@[simp] theorem current_enter (change : ContextChange) (stack : ContextStack) :
    (stack.enter change).current = stack.current.changed change := rfl

end ContextStack
end TypedTables
