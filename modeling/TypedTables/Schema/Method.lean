import TypedTables.Schema.Construction

/-!
# Refining schemas step by step

A method makes a new schema from a given one and never changes the given one. Most methods belong
to some kinds of schema only; on any other kind they are a fault that names the kind's class.
-/

namespace TypedTables

/-- Where an endpoint of a relation leads: to tables by name, or through a reference. -/
inductive Endpoint where
  | tables (names : List String)
  | reference (schema : Schema)

/-- A step of building on a schema. -/
inductive Method where
  | min (bound : Value)
  | max (bound : Value)
  | length (bound : Value)
  | nonempty
  | regex (pattern : Option String)
  | gt (bound : Value)
  | gte (bound : Value)
  | lt (bound : Value)
  | lte (bound : Value)
  | positive
  | nonnegative
  | refine (check : UserFunction Value) (message : String)
  | describe (description : Value)
  | optional
  | nullable
  | nullish
  | nonoptional
  | default (value : Value)
  | prefault (value : Value)
  | fallback (replacement : Replacement)
  | readonly
  | pipe (target : Schema)
  | transform (function : UserFunction Value)
  | array
  | or (option : Schema)
  | and (other : Schema)
  | unwrap
  | strict
  | loose
  | strip
  | rest (catchall : Schema)
  | extend (shape : List (String × Schema))
  | pick (names : List String)
  | omit (names : List String)
  | partially
  | keyof
  | tables (names : List String)
  | anytable
  | identifiedBy (schema : Schema)
  | name (name : String)
  | fields (shape : List (String × Schema))
  | schemafull
  | schemaless
  | any
  | normal
  | relation
  | source (endpoint : Endpoint)
  | target (endpoint : Endpoint)
  | drop
  | nodrop
  | comment (text : Value)
  | draft
  | entity
  | record

namespace Method

/-- A bound that is set; null sets none. -/
def setBound (bound : Value) : Option Value := if bound.isNull then none else some bound

def setNumberBound (limit : Value) (inclusive : Bool) : Option NumberBound :=
  if limit.isNull then none else some ⟨limit, inclusive⟩

def endpointReference : Endpoint → Schema
  | .tables names => Schema.referenceTo (some names)
  | .reference schema => schema

def className : Kind → String
  | .any => "AnySchema"
  | .unknown => "UnknownSchema"
  | .never => "NeverSchema"
  | .undefined => "UndefinedSchema"
  | .void => "VoidSchema"
  | .null => "NullSchema"
  | .boolean => "BooleanSchema"
  | .string => "StringSchema"
  | .email => "EmailSchema"
  | .url => "UrlSchema"
  | .uuid => "UuidSchema"
  | .number => "NumberSchema"
  | .bigint => "BigIntSchema"
  | .date => "DateSchema"
  | .enum => "EnumSchema"
  | .literal => "LiteralSchema"
  | .symbol => "SymbolSchema"
  | .function => "FunctionSchema"
  | .promise => "PromiseSchema"
  | .custom => "CustomSchema"
  | .object => "ObjectSchema"
  | .array => "ArraySchema"
  | .set => "SetSchema"
  | .tuple => "TupleSchema"
  | .record => "RecordSchema"
  | .map => "MapSchema"
  | .union => "UnionSchema"
  | .intersection => "IntersectionSchema"
  | .optional => "OptionalSchema"
  | .nullable => "NullableSchema"
  | .nonoptional => "NonOptionalSchema"
  | .default => "DefaultSchema"
  | .prefault => "PrefaultSchema"
  | .fallback => "CatchSchema"
  | .readonly => "ReadonlySchema"
  | .transform => "TransformSchema"
  | .pipe => "PipeSchema"
  | .lazily => "LazySchema"
  | .reference => "RecordIdSchema"
  | .table => "TableSchema"

def missing (schema : Schema) (method : String) : Builder Schema :=
  throw (.lacking
    s!"'{className schema.kind}' object has no attribute '{method}'")

def onNumber (schema : Schema) (method : String) (change : NumberRules → NumberRules) :
    Builder Schema :=
  match schema.form with
  | .number rules => Builder.reshape schema (.number (change rules))
  | _ => missing schema method

def onTable (schema : Schema) (method : String) (change : Table Schema → Table Schema) :
    Builder Schema :=
  match schema.form with
  | .table table => Builder.withTable schema (change table)
  | _ => missing schema method

def onObject (schema : Schema) (method : String)
    (change : List (String × Schema) → Option Schema →
      Builder (List (String × Schema) × Option Schema)) : Builder Schema :=
  match schema.form with
  | .object shape catchall => do
      let (newShape, newCatchall) ← change shape catchall
      Builder.reshape schema (.object newShape newCatchall)
  | _ => missing schema method

def setLeast (schema : Schema) (bound : Value) : Builder Schema :=
  match schema.form with
  | .text rules => Builder.reshape schema (.text { rules with least := setBound bound })
  | .number rules =>
      Builder.reshape schema (.number { rules with least := setNumberBound bound true })
  | .array element _ most => Builder.reshape schema (.array element (setBound bound) most)
  | .set element _ most => Builder.reshape schema (.set element (setBound bound) most)
  | _ => missing schema "min"

/-- Sets a greatest size or number. -/
def setMost (schema : Schema) (bound : Value) : Builder Schema :=
  match schema.form with
  | .text rules => Builder.reshape schema (.text { rules with most := setBound bound })
  | .number rules =>
      Builder.reshape schema (.number { rules with most := setNumberBound bound true })
  | .array element least _ => Builder.reshape schema (.array element least (setBound bound))
  | .set element least _ => Builder.reshape schema (.set element least (setBound bound))
  | _ => missing schema "max"

def setLength (schema : Schema) (bound : Value) : Builder Schema :=
  match schema.form with
  | .text rules =>
      Builder.reshape schema
        (.text { rules with least := setBound bound, most := setBound bound })
  | .array element _ _ =>
      Builder.reshape schema (.array element (setBound bound) (setBound bound))
  | _ => missing schema "length"

def unwrapped (schema : Schema) : Builder Schema :=
  match schema.form with
  | .optional inner | .nullable inner | .nonoptional inner | .default inner _
  | .prefault inner _ | .fallback inner _ | .readonly inner => pure inner
  | _ => missing schema "unwrap"

def optionalField (field : String × Schema) : Builder (String × Schema) :=
  if field.2.kind = .optional then pure field
  else do
    let wrapped ← Builder.fresh (.optional field.2)
    return (field.1, wrapped)

def optionalFields : List (String × Schema) → Builder (List (String × Schema))
  | [] => pure []
  | field :: remaining => do
      let first ← optionalField field
      let others ← optionalFields remaining
      return first :: others

def apply (method : Method) (schema : Schema) : Builder Schema :=
  match method with
  | .min bound => setLeast schema bound
  | .max bound => setMost schema bound
  | .length bound => setLength schema bound
  | .nonempty =>
      match schema.form with
      | .array element _ most =>
          Builder.reshape schema (.array element (some (.integer 1)) most)
      | _ => missing schema "nonempty"
  | .regex pattern =>
      match schema.form with
      | .text rules => Builder.reshape schema (.text { rules with pattern })
      | _ => missing schema "regex"
  | .gt bound =>
      onNumber schema "gt" fun rules => { rules with least := setNumberBound bound false }
  | .gte bound =>
      onNumber schema "gte" fun rules => { rules with least := setNumberBound bound true }
  | .lt bound =>
      onNumber schema "lt" fun rules => { rules with most := setNumberBound bound false }
  | .lte bound =>
      onNumber schema "lte" fun rules => { rules with most := setNumberBound bound true }
  | .positive =>
      onNumber schema "positive" fun rules => { rules with least := some ⟨.integer 0, false⟩ }
  | .nonnegative =>
      onNumber schema "nonnegative" fun rules => { rules with least := some ⟨.integer 0, true⟩ }
  | .refine check message =>
      Builder.withRefinements schema (schema.refinements ++ [⟨check, message⟩])
  | .describe description => Builder.withDescription schema description
  | .optional => Builder.fresh (.optional schema)
  | .nullable => Builder.fresh (.nullable schema)
  | .nullish => do
      let inner ← Builder.fresh (.nullable schema)
      Builder.fresh (.optional inner)
  | .nonoptional => Builder.fresh (.nonoptional schema)
  | .default value => Builder.fresh (.default schema value)
  | .prefault value => Builder.fresh (.prefault schema value)
  | .fallback replacement => Builder.fresh (.fallback schema replacement)
  | .readonly => Builder.fresh (.readonly schema)
  | .pipe next => Builder.fresh (.pipe schema next)
  | .transform function => do
      let mapping ← Builder.fresh (.transform function)
      Builder.fresh (.pipe schema mapping)
  | .array => Builder.fresh (.array schema none none)
  | .or option =>
      match schema.form with
      | .union options => Builder.reshape schema (.union (options ++ [option]))
      | _ => Builder.fresh (.union [schema, option])
  | .and other => Builder.fresh (.intersection schema other)
  | .unwrap => unwrapped schema
  | .strict => do
      let never ← Builder.fresh .never
      onObject schema "strict" fun shape _ => pure (shape, some never)
  | .loose => do
      let unknown ← Builder.fresh .unknown
      onObject schema "loose" fun shape _ => pure (shape, some unknown)
  | .strip => onObject schema "strip" fun shape _ => pure (shape, none)
  | .rest catchall => onObject schema "rest" fun shape _ => pure (shape, some catchall)
  | .extend added =>
      onObject schema "extend" fun shape catchall =>
        pure (collectFields (shape ++ added), catchall)
  | .pick names =>
      onObject schema "pick" fun shape catchall =>
        pure (shape.filter fun field => names.contains field.1, catchall)
  | .omit names =>
      onObject schema "omit" fun shape catchall =>
        pure (shape.filter fun field => !names.contains field.1, catchall)
  | .partially =>
      onObject schema "partial" fun shape catchall => do
        let wrapped ← optionalFields shape
        return (wrapped, catchall)
  | .keyof =>
      match schema.form with
      | .object shape _ =>
          Builder.fresh (.enumeration (shape.map fun field => .text field.1))
      | _ => missing schema "keyof"
  | .tables names =>
      match schema.form with
      | .reference _ identifier => Builder.reshape schema (.reference (some names) identifier)
      | _ => missing schema "table"
  | .anytable =>
      match schema.form with
      | .reference _ identifier => Builder.reshape schema (.reference none identifier)
      | _ => missing schema "anytable"
  | .identifiedBy identifier =>
      match schema.form with
      | .reference permitted _ =>
          if identifier.kind.describesIdentifier then
            Builder.reshape schema (.reference permitted identifier)
          else throw (.unsuitableIdentifier identifier.kind.name)
      | _ => missing schema "type"
  | .name newName => onTable schema "name" fun table => { table with name := newName }
  | .fields shape =>
      onTable schema "fields" fun table => { table with declared := collectFields shape }
  | .schemafull =>
      onTable schema "schemafull" fun table =>
        { table with catchall := Schema.anonymous .never }
  | .schemaless =>
      onTable schema "schemaless" fun table =>
        { table with catchall := Schema.anonymous .unknown }
  | .any => onTable schema "any" fun table => { table with mode := .any }
  | .normal => onTable schema "normal" fun table => { table with mode := .normal }
  | .relation => onTable schema "relation" fun table => { table with mode := .relation }
  | .source endpoint =>
      onTable schema "from_" fun table =>
        { table with mode := .relation, source := some (endpointReference endpoint) }
  | .target endpoint =>
      onTable schema "to" fun table =>
        { table with mode := .relation, target := some (endpointReference endpoint) }
  | .drop => onTable schema "drop" fun table => { table with drops := true }
  | .nodrop => onTable schema "nodrop" fun table => { table with drops := false }
  | .comment text => onTable schema "comment" fun table => { table with comment := text }
  | .draft => onTable schema "dto" fun table => { table with isDraft := true }
  | .entity => onTable schema "entity" fun table => { table with isDraft := false }
  | .record =>
      match schema.form with
      | .table table => pure table.recordSchema
      | _ => missing schema "record"

end Method
end TypedTables
