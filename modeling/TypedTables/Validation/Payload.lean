import TypedTables.Fault
import TypedTables.Issue
import TypedTables.Value.Equality
import TypedTables.Value.Written

/-!
# Payloads and results

A payload is a value on its way through a schema with the issues reported for it. At the end it
becomes a result: the value when there are no issues, else the issues and a message that lists
them.
-/

namespace TypedTables

/-- A value and the issues reported for it. -/
structure Payload where
  value : Value
  issues : List Issue
  deriving Repr

namespace Payload

def accept (value : Value) : Payload := ⟨value, []⟩

def reject (value : Value) (issue : Issue) : Payload := ⟨value, [issue]⟩

def wrongKind (expected : String) (value : Value) : Payload :=
  reject value (Issue.wrongKind expected value)

def isClean (payload : Payload) : Bool := payload.issues.isEmpty

@[simp] theorem isClean_accept (value : Value) : (accept value).isClean = true := rfl

@[simp] theorem isClean_reject (value : Value) (issue : Issue) :
    (reject value issue).isClean = false := rfl

end Payload

/-- How a validation ends. -/
inductive ParseResult where
  | accepted (data : Value)
  | rejected (issues : List Issue) (message : String)
  deriving Repr

namespace Issue

def location (issue : Issue) : Except Fault String :=
  (issue.path.mapM Value.plain).map fun segments =>
    let joined := ".".intercalate segments
    if joined.isEmpty then "<root>" else joined

def line (issue : Issue) : Except Fault String :=
  issue.location.map fun place =>
    s!"{place}: {if issue.message.isEmpty then issue.code.text else issue.message}"

def report (issues : List Issue) : Except Fault String :=
  (issues.mapM line).map fun lines =>
    s!"Validation failed with {issues.length} issue(s):\n" ++
      "\n".intercalate (lines.map ("  - " ++ ·))

end Issue

namespace ParseResult

def ofPayload (payload : Payload) : Except Fault ParseResult :=
  if payload.isClean then .ok (.accepted payload.value)
  else (Issue.report payload.issues).map fun message => .rejected payload.issues message

def demand : ParseResult → Except Fault Value
  | .accepted data => .ok data
  | .rejected _ message => .error (.rejected message)

end ParseResult
end TypedTables
