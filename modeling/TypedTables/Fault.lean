import TypedTables.Pattern.Fault

/-!
# Faults

A fault ends a computation; a problem with a value being validated is an issue instead. Each
fault is a cause with what it needs to be reported, and its wording is given here.
-/

namespace TypedTables

/-- Why a schema node has no type in the database. -/
inductive LoweringCause where
  | unsupportedField (construct : String)
  | unsupportedFormat (kind format : String)
  | unsupportedKey (keyType : String)
  | recursive (kind : String)
  | other (message : String)
  deriving DecidableEq, Repr

def LoweringCause.message : LoweringCause → String
  | .unsupportedField construct => s!"{construct} type cannot be used as a field type"
  | .unsupportedFormat kind format => s!"Unsupported {kind} format: {format}"
  | .unsupportedKey keyType => s!"Unsupported key type: {keyType}"
  | .recursive kind => s!"Recursive type detected while lowering {kind}"
  | .other message => message

inductive Fault where
  /-- An awaitable answer met a synchronous validation. -/
  | asynchronous
  /-- An awaitable value was awaited again. -/
  | awaitedTwice
  /-- A node has no type in the database; the field is named where it is known. -/
  | lowering (cause : LoweringCause) (field : Option String)
  /-- A schema of this kind cannot describe the identifier of a record. -/
  | unsuitableIdentifier (kind : String)
  | tableNotFound (table : String)
  /-- A table is referred to by name where no tables are registered. -/
  | noRegistry (table : String)
  /-- A table cannot be had, for a reason that is given. -/
  | unavailableTable (table reason : String)
  | duplicateTable (table : String)
  /-- A registry refused something else. -/
  | registry (message : String)
  /-- A schema cannot be built in some other way. -/
  | construction (message : String)
  /-- A validation that must succeed reported issues, listed in the message. -/
  | rejected (message : String)
  /-- Options do not have the shape they need. -/
  | malformedOptions
  /-- A refused key cannot stand in the path of its issue. -/
  | unlocatableKey
  /-- A text, shown as in messages, names none of the choices of a kind. -/
  | unknownChoice (shown choice : String)
  | unknownStatement (shown : String)
  | malformedRecordText (shown : String)
  | userFailure (message : String)
  /-- A value of this class cannot be a key or a member of a set. -/
  | unhashable (className : String)
  /-- A value of this class cannot be written as a literal. -/
  | noLiteral (className : String)
  /-- A value of this class cannot be a key of a written object. -/
  | unusableKey (className : String)
  /-- An operation met an operand of the wrong kind. -/
  | operand (message : String)
  /-- A value lacks what an operation asks it for. -/
  | lacking (message : String)
  /-- An operation met an operand out of its domain. -/
  | domain (message : String)
  | malformedPattern (cause : PatternFault)
  | unknownDefinition (name : String)
  /-- The nesting of a computation went beyond its limit. -/
  | tooDeep
  deriving DecidableEq, Repr

namespace Fault

def message? : Fault → Option String
  | .asynchronous =>
      some ("Encountered an asynchronous validator during synchronous parse, " ++
        "use parse_async() instead")
  | .awaitedTwice => some "cannot reuse already awaited coroutine"
  | .lowering cause none => some cause.message
  | .lowering cause (some field) =>
      some (if field.isEmpty then cause.message else s!"{cause.message} (field '{field}')")
  | .unsuitableIdentifier kind => some s!"{kind} is not valid as a RecordId's value"
  | .tableNotFound table => some s!"Table not registered: {table}"
  | .noRegistry table => some s!"Lazy reference to table '{table}' needs a TableRegistry"
  | .unavailableTable table reason =>
      some (if reason.isEmpty then s!"Table not registered: {table}" else reason)
  | .duplicateTable table => some s!"Table already registered: {table}"
  | .registry message => some message
  | .construction message => some message
  | .rejected message => some message
  | .malformedOptions | .unlocatableKey => none
  | .unknownChoice shown choice => some s!"{shown} is not a valid {choice}"
  | .unknownStatement shown => some s!"Invalid statement: {shown}"
  | .malformedRecordText shown => some s!"Invalid record id: {shown}"
  | .userFailure message => some message
  | .unhashable className => some s!"unhashable type: '{className}'"
  | .noLiteral className => some s!"Value of type {className} has no SurrealQL literal"
  | .unusableKey className =>
      some s!"keys must be str, int, float, bool or None, not {className}"
  | .operand message => some message
  | .lacking message => some message
  | .domain message => some message
  | .malformedPattern cause => some cause.message
  | .unknownDefinition name => some s!"'{name}'"
  | .tooDeep => some "maximum recursion depth exceeded"

end Fault
end TypedTables
