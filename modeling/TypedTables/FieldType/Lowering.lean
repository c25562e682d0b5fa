import TypedTables.Effect.Traced
import TypedTables.FieldType.Basic
import TypedTables.Schema.Height

/-!
# Lowering

Lowering finds the field type of a schema. Each schema adds alternatives to the type of the
context it is lowered in; the elements of containers, and a schema that must be present, are
lowered in contexts of their own. The properties of an object become children, which are lowered
as fields of their own afterwards.

The ancestors of a schema are the schemas whose lowering it is part of; they form a stack, which
is as it was when a lowering has ended, well or not. They are known by their identities, and nothing
tells an ancestor that is gone from a schema that was given its identity since. A schema that is its
own ancestor is a fault, unless a lazy schema leads back to it: then everything is permitted there. A
lazy schema that leads to a table whose fields are being defined permits everything as well.
-/

namespace TypedTables

/-- The identity of a schema on the way. It stays on record with the children that were found, when
the schema itself may be gone. -/
abbrev Ancestor := Option Nat

/-- A property found while an object was lowered, and the schemas it lies in. -/
structure ChildField where
  path : List String
  schema : Schema
  ancestors : List Ancestor

/-- The type that is being collected, and where below the field it belongs. At the root the type
is that of the field itself. -/
structure LoweringContext where
  path : List String
  isRoot : Bool
  type : FieldType

namespace LoweringContext

def ofField : LoweringContext := ⟨[], true, []⟩

/-- A context with a type of its own, one segment further down where a segment is given. -/
def fresh (segment : Option String) (context : LoweringContext) : LoweringContext :=
  match segment with
  | none => { context with type := [] }
  | some name => ⟨context.path ++ [name], false, []⟩

end LoweringContext

/-- The schemas that are being lowered, the context, and what lowering a field has collected. -/
structure LoweringState where
  ancestors : List Ancestor
  context : LoweringContext
  children : List ChildField
  /-- The value for an absent field; absent where there is none. -/
  default : Value
  isFlexible : Bool
  notices : List Notice

namespace LoweringState

/-- Nothing was collected yet for a field below some ancestors. -/
def ofField (ancestors : List Ancestor) : LoweringState :=
  ⟨ancestors, .ofField, [], .undefined, false, []⟩

/-- The schema has the identity of one that is being lowered. -/
def isOpen (state : LoweringState) (schema : Schema) : Bool :=
  match schema.identity with
  | some identity => state.ancestors.contains (some identity)
  | none => false

end LoweringState

/-- A step of lowering; what was collected before a fault is kept. -/
abbrev Lowering (α : Type) := ExceptT Fault (StateM LoweringState) α

/-- Where lowering takes place: what lazy schemas are resolved in, and the tables whose fields are
being defined. -/
structure LoweringScope where
  environment : Environment
  openTables : List String

namespace Lowering

/-- Goes on with a result, or ends in a fault. -/
def given {α : Type} (outcome : Except Fault α) : Lowering α := fun state => (outcome, state)

def addAtom (atom : TypeAtom) : Lowering Unit := modify fun state =>
  { state with context := { state.context with type := state.context.type.add atom } }

def addAtoms (atoms : List TypeAtom) : Lowering Unit := modify fun state =>
  { state with context := { state.context with type := state.context.type.addAll atoms } }

def notify (notice : Notice) : Lowering Unit := modify fun state =>
  { state with notices := state.notices ++ [notice] }

/-- Keeps a property for later. -/
def addChild (name : String) (schema : Schema) : Lowering Unit := modify fun state =>
  let child := ⟨state.context.path ++ [name], schema, state.ancestors⟩
  { state with children := state.children ++ [child] }

/-- Keeps the default of the field itself: the first that is not to be computed. -/
def keepDefault (value : Value) : Lowering Unit := modify fun state =>
  if state.context.isRoot && state.default.isUndefined && !value.isCallable then
    { state with default := value }
  else state

/-- Marks the field itself as open to further properties. -/
def markFlexible : Lowering Unit := modify fun state =>
  if state.context.isRoot then { state with isFlexible := true } else state

/-- Lowers in a fresh context, and goes back to the context before. -/
def inFresh (segment : Option String) (action : Lowering Unit) : Lowering LoweringContext :=
  fun state =>
    let (outcome, final) := action { state with context := state.context.fresh segment }
    (outcome.map fun _ => final.context, { final with context := state.context })

/-- Lowers apart from the field: only the type and the notices remain. -/
def apart (action : Lowering Unit) : Lowering FieldType := fun state =>
  let (outcome, final) := action (.ofField state.ancestors)
  (outcome.map fun _ => final.context.type, { state with notices := state.notices ++ final.notices })

/-- Lowers with one more ancestor, which is gone again when that has ended, well or not. -/
def inside (schema : Schema) (action : Lowering Unit) : Lowering Unit := fun state =>
  let (outcome, final) := action { state with ancestors := schema.identity :: state.ancestors }
  (outcome, { final with ancestors := final.ancestors.tail })

/-- The fault of a construct that fields cannot have. -/
def refuse (construct : String) : Lowering Unit :=
  throw (.lowering (.unsupportedField construct) none)

/-- How a schema is lowered in a scope. -/
abbrev Lowerer := LoweringScope → Schema → Lowering Unit

/-- The type of an element, one segment down. -/
def elementType (lower : Lowerer) (scope : LoweringScope) (element : Schema) :
    Lowering FieldType := do
  let context ← inFresh (some "*") (lower scope element)
  return context.type

/-- Lowers a container: its element type is written unless it permits everything. -/
def container (lower : Lowerer) (scope : LoweringScope) (element : Schema) : Lowering Unit := do
  let type ← elementType lower scope element
  addAtom (if type.isOpen then .array else .arrayOf type)

/-- Lowers an object with any keys of a kind; its values become one child. -/
def keyed (lower : Lowerer) (scope : LoweringScope) (key value : Schema) : Lowering Unit := do
  let keyType ← apart (lower { scope with openTables := [] } key)
  if keyType.all FieldType.permitsKey then
    addAtom .object
    addChild "*" value
  else throw (.lowering (.unsupportedKey keyType.text) none)

/-- Adds a literal for each of several values; a value may have none. -/
def literals (values : List Value) : Lowering Unit :=
  values.forM fun value => do
    let _ ← given value.literal
    addAtom (.literal value)

/-- Lowers what a lazy schema stands for, unless that is under way. -/
def resolved (lower : Lowerer) (scope : LoweringScope) (target : Schema) : Lowering Unit := do
  if (← get).isOpen target then
    notify (.ancestorLoweredAsAny target.kind.name)
    addAtom .any
  else
    match target.table? with
    | some table =>
        if scope.openTables.contains table.name then
          notify (.tableLoweredAsAny table.name)
          addAtom .any
        else lower scope target
    | none => lower scope target

/-- Lowers a form, given how its parts are lowered. -/
def form (lower : Lowerer) (scope : LoweringScope) (form : Form Schema) : Lowering Unit := do
  match form with
  | .promise _ => refuse "Promise"
  | .function => refuse "Function"
  | .custom .. => refuse "Custom"
  | .symbol => refuse "Symbol"
  | .table _ => refuse "Table"
  | .number rules => addAtom (← given (FieldType.ofNumeric "number" rules.format))
  | .bigint format => addAtom (← given (FieldType.ofNumeric "bigint" format))
  | .optional inner =>
      lower scope inner
      addAtom .none
  | .nullable inner =>
      lower scope inner
      addAtom .null
  | .nonoptional inner =>
      let context ← inFresh none (lower scope inner)
      addAtoms context.type.withoutAbsence
  | .default inner value | .prefault inner value =>
      keepDefault value
      lower scope inner
  | .fallback inner _ | .readonly inner => lower scope inner
  | .pipe source target =>
      if source.kind = .transform then lower scope target else lower scope source
  | .object shape catchall =>
      addAtom .object
      if catchall.map Schema.kind = some .unknown then markFlexible
      shape.forM fun (name, schema) => addChild name schema
  | .array element _ _ | .set element _ _ => container lower scope element
  | .record key value | .map key value => keyed lower scope key value
  | .tuple items rest =>
      if rest.isSome then addAtom .array
      else
        let types ← items.mapM (elementType lower scope)
        addAtom (.tupleOf (FieldType.distinct types))
  | .union options => options.forM (lower scope)
  | .enumeration values | .literal values => literals values
  | .lazily target => resolved lower scope (← given (scope.environment.resolve target))
  | .reference tables _ =>
      match tables with
      | some (name :: rest) => addAtom (.recordOf (name :: rest))
      | _ => addAtom .record
  | leaf => addAtom leaf.kind.ownType

/-- Lowers a schema through at most so many schemas one inside another. -/
def run : Nat → Lowerer
  | 0 => fun _ _ => throw .tooDeep
  | budget + 1 => fun scope schema =>
      get >>= fun state =>
        if state.isOpen schema then throw (.lowering (.recursive schema.kind.name) none)
        else inside schema (form (run budget) scope schema.form)

/-- Lowers a schema into the current context. -/
def enter (scope : LoweringScope) (schema : Schema) : Lowering Unit :=
  run (scope.environment.budget schema) scope schema

def enterFresh (scope : LoweringScope) (segment : Option String) (schema : Schema) :
    Lowering LoweringContext :=
  inFresh segment (enter scope schema)

end Lowering

/-- What the definition of a field needs. -/
structure LoweredField where
  type : FieldType
  isFlexible : Bool
  /-- The value for an absent field; absent where there is none. -/
  default : Value
  children : List ChildField

namespace LoweredField

def ofState (state : LoweringState) : LoweredField :=
  ⟨state.context.type, state.isFlexible, state.default, state.children⟩

def hasDefault (field : LoweredField) : Bool := !field.default.isUndefined

end LoweredField

def Schema.lowered (schema : Schema) (scope : LoweringScope) (ancestors : List Ancestor) :
    Traced LoweredField :=
  let (outcome, state) := Lowering.enter scope schema (.ofField ancestors)
  ⟨state.notices.map .noticed, outcome.map fun _ => .ofState state⟩

end TypedTables
