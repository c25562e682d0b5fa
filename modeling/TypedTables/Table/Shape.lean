import TypedTables.Fault
import TypedTables.Schema.Basic

/-!
# The shape of a table

The fields of a table in their standard order: the identifier, the two ends when the table is a
relation, and then what was declared. The identifier is always a reference to a record of this
table, whatever was declared for it: a declared reference keeps all but its tables, and another
declared schema describes the identifier of the record. In a draft, which is a record not yet
stored, the identifier may be absent.
-/

namespace TypedTables

/-- The kinds of schemas that can describe the identifier of a record. -/
def Kind.describesIdentifier : Kind → Bool
  | .any | .unknown | .string | .number | .bigint | .uuid | .object | .array => true
  | _ => false

namespace Schema

def withTables (tables : Option (List String)) (schema : Schema) : Schema :=
  match schema.form with
  | .reference _ identifier =>
      { schema with identity := none, form := .reference tables identifier }
  | _ => schema

def withIdentifier (identifier reference : Schema) : Except Fault Schema :=
  if identifier.kind.describesIdentifier then
    match reference.form with
    | .reference tables _ =>
        .ok { reference with identity := none, form := .reference tables identifier }
    | _ => .ok reference
  else .error (.unsuitableIdentifier identifier.kind.name)

end Schema

namespace Table

def recordReference (table : Table Schema) : Except Fault Schema :=
  let base := Schema.referenceTo (some [table.name])
  match fieldNamed? "id" table.declared with
  | none => .ok base
  | some declared =>
      if declared.kind = .reference then .ok (declared.withTables (some [table.name]))
      else declared.withIdentifier base

/-- The identifier field: a reference that a draft may lack. -/
def identifierField (table : Table Schema) : Except Fault Schema :=
  table.recordReference.map fun reference =>
    if table.isDraft then Schema.anonymous (.optional reference) else reference

/-- The field at one end of a relation: the endpoint that was set, else a declared reference, else
a reference to any record. -/
def endField (table : Table Schema) (name : String) (endpoint : Option Schema) : Schema :=
  match endpoint with
  | some reference => reference
  | none =>
      match fieldNamed? name table.declared with
      | some declared =>
          if declared.kind = .reference then declared else Schema.referenceTo none
      | none => Schema.referenceTo none

/-- Names that declared fields do not take part under. -/
def reservedNames (table : Table Schema) : List String :=
  if table.mode = .relation then ["id", "in", "out"] else ["id"]

def endFields (table : Table Schema) : List (String × Schema) :=
  if table.mode = .relation then
    [("in", table.endField "in" table.source), ("out", table.endField "out" table.target)]
  else []

/-- The declared fields under names that are not reserved. -/
def ownFields (table : Table Schema) : List (String × Schema) :=
  table.declared.filter fun field => !table.reservedNames.contains field.1

/-- All fields in their standard order, unless the declared identifier is unsuitable. -/
def shape? (table : Table Schema) : Except Fault (List (String × Schema)) :=
  table.identifierField.map fun identifier =>
    ("id", identifier) :: (table.endFields ++ table.ownFields)

/-- All fields of a table that was built with a suitable identifier. -/
def shape (table : Table Schema) : List (String × Schema) :=
  match table.shape? with
  | .ok fields => fields
  | .error _ => []

def fieldNames (table : Table Schema) : List String := table.shape.map Prod.fst

/-- A table that rejects keys it does not know. -/
def isStrict (table : Table Schema) : Bool := table.catchall.kind == .never

/-- The tables an endpoint permits; nothing where no endpoint was set or any table is permitted. -/
def endpointTables (endpoint : Option Schema) : Option (List String) :=
  (endpoint.bind Schema.referenceTables?).join

def recordSchema (table : Table Schema) : Schema :=
  (fieldNamed? "id" table.shape).getD (Schema.referenceTo (some [table.name]))

def label (table : Table Schema) : String :=
  s!"<TableSchema name={table.name} type={table.mode.text}>"

/-- A table with a name, in a mode, and nothing declared; other keys are kept. -/
def named (name : String) (mode : TableMode) : Table Schema :=
  { name, declared := [], catchall := Schema.anonymous .unknown, mode, source := none
    target := none, drops := false, comment := .null, isDraft := false }

/-- Refuses a table whose declared identifier is unsuitable. -/
def checked (table : Table Schema) : Except Fault (Table Schema) :=
  table.shape?.map fun _ => table

end Table
end TypedTables
