import TypedTables.Value.Function

/-!
# Schemas

A schema describes values. It is a tree: a form with its parts, the refinements that run after
the form, and a description. Every schema that was built on its own has an identity of its own;
two occurrences of one identity are the same schema, however alike other schemas look, as long as
both are there: the identity of a schema that is gone can be given to one that is built later. A
lazy schema holds the name of its target, or a template to build it from, and so cycles go through
lazy schemas only.
-/

namespace TypedTables

structure Refinement where
  check : UserFunction Value
  message : String

/-- What a value with issues is replaced with: a value, or what a function makes of the issues. -/
inductive Replacement where
  | value (value : Value)
  | computed (function : UserFunction (List Issue))

inductive TextFormat where
  | free
  | email
  | url (protocols : Option (List String)) (normalize : Bool)
  deriving DecidableEq, Repr

structure TextRules where
  format : TextFormat
  least : Option Value
  most : Option Value
  pattern : Option String
  coerce : Bool
  deriving Repr

structure NumberBound where
  limit : Value
  inclusive : Bool
  deriving Repr

structure NumberRules where
  format : Option String
  least : Option NumberBound
  most : Option NumberBound
  coerce : Bool
  deriving Repr

/-- Which records a table takes. -/
inductive TableMode where
  | any
  | normal
  | relation
  deriving DecidableEq, Repr

def TableMode.text : TableMode → String
  | .any => "any"
  | .normal => "normal"
  | .relation => "relation"

/-- A table: its name, the fields declared for it, what it does with other keys, and what its
definition says about it. Endpoints are the record references at the two ends of a relation. -/
structure Table (σ : Type) where
  name : String
  declared : List (String × σ)
  catchall : σ
  mode : TableMode
  source : Option σ
  target : Option σ
  drops : Bool
  comment : Value
  isDraft : Bool
  deriving Repr

/-- How the target of a lazy schema is found. -/
inductive LazyTarget (σ : Type) where
  /-- A registered table. -/
  | table (name : String)
  /-- A named definition. -/
  | definition (name : String)
  /-- A schema that is built anew each time, with the identities that its parts are given then. One
  of them may have been that of a schema that is gone; a part without identity gets one of its own. -/
  | template (schema : σ)
  /-- A schema that cannot be built. -/
  | unbuildable (cause : Fault)
  deriving Repr

/-- The form of a schema over its parts. -/
inductive Form (σ : Type) where
  | any
  | unknown
  | never
  | undefined
  | void
  | null
  | boolean
  | text (rules : TextRules)
  | uuid (format : String)
  | number (rules : NumberRules)
  | bigint (format : Option String)
  | date (coerce : Bool)
  | enumeration (values : List Value)
  | literal (values : List Value)
  | symbol
  | function
  | promise (inner : σ)
  | custom (check : Option (UserFunction Value)) (message : String)
  | object (shape : List (String × σ)) (catchall : Option σ)
  | array (element : σ) (least most : Option Value)
  | set (element : σ) (least most : Option Value)
  | tuple (items : List σ) (rest : Option σ)
  | record (key value : σ)
  | map (key value : σ)
  | union (options : List σ)
  | intersection (left right : σ)
  | optional (inner : σ)
  | nullable (inner : σ)
  | nonoptional (inner : σ)
  | default (inner : σ) (value : Value)
  | prefault (inner : σ) (value : Value)
  | fallback (inner : σ) (replacement : Replacement)
  | readonly (inner : σ)
  | transform (function : UserFunction Value)
  | pipe (source target : σ)
  | lazily (target : LazyTarget σ)
  | reference (tables : Option (List String)) (identifier : σ)
  | table (table : Table σ)

structure Schema where
  identity : Option Nat
  refinements : List Refinement
  description : Value
  form : Form Schema

inductive Kind where
  | any
  | unknown
  | never
  | undefined
  | void
  | null
  | boolean
  | string
  | email
  | url
  | uuid
  | number
  | bigint
  | date
  | enum
  | literal
  | symbol
  | function
  | promise
  | custom
  | object
  | array
  | set
  | tuple
  | record
  | map
  | union
  | intersection
  | optional
  | nullable
  | nonoptional
  | default
  | prefault
  | fallback
  | readonly
  | transform
  | pipe
  | lazily
  | reference
  | table
  deriving DecidableEq, Repr

def Kind.name : Kind → String
  | .any => "any"
  | .unknown => "unknown"
  | .never => "never"
  | .undefined => "undefined"
  | .void => "void"
  | .null => "null"
  | .boolean => "boolean"
  | .string => "string"
  | .email => "email"
  | .url => "url"
  | .uuid => "uuid"
  | .number => "number"
  | .bigint => "bigint"
  | .date => "date"
  | .enum => "enum"
  | .literal => "literal"
  | .symbol => "symbol"
  | .function => "function"
  | .promise => "promise"
  | .custom => "custom"
  | .object => "object"
  | .array => "array"
  | .set => "set"
  | .tuple => "tuple"
  | .record => "record"
  | .map => "map"
  | .union => "union"
  | .intersection => "intersection"
  | .optional => "optional"
  | .nullable => "nullable"
  | .nonoptional => "nonoptional"
  | .default => "default"
  | .prefault => "prefault"
  | .fallback => "catch"
  | .readonly => "readonly"
  | .transform => "transform"
  | .pipe => "pipe"
  | .lazily => "lazy"
  | .reference => "record_id"
  | .table => "table"

def Form.kind {σ : Type} : Form σ → Kind
  | .any => .any
  | .unknown => .unknown
  | .never => .never
  | .undefined => .undefined
  | .void => .void
  | .null => .null
  | .boolean => .boolean
  | .text rules =>
      match rules.format with
      | .free => .string
      | .email => .email
      | .url .. => .url
  | .uuid _ => .uuid
  | .number _ => .number
  | .bigint _ => .bigint
  | .date _ => .date
  | .enumeration _ => .enum
  | .literal _ => .literal
  | .symbol => .symbol
  | .function => .function
  | .promise _ => .promise
  | .custom .. => .custom
  | .object .. => .object
  | .array .. => .array
  | .set .. => .set
  | .tuple .. => .tuple
  | .record .. => .record
  | .map .. => .map
  | .union _ => .union
  | .intersection .. => .intersection
  | .optional _ => .optional
  | .nullable _ => .nullable
  | .nonoptional _ => .nonoptional
  | .default .. => .default
  | .prefault .. => .prefault
  | .fallback .. => .fallback
  | .readonly _ => .readonly
  | .transform _ => .transform
  | .pipe .. => .pipe
  | .lazily _ => .lazily
  | .reference .. => .reference
  | .table _ => .table

namespace Schema

def kind (schema : Schema) : Kind := schema.form.kind

/-- A schema whose identity no other occurrence has. -/
def anonymous (form : Form Schema) : Schema :=
  { identity := none, refinements := [], description := .null, form }

/-- Two occurrences are the same schema. -/
def isSame (left right : Schema) : Bool :=
  match left.identity, right.identity with
  | some leftIdentity, some rightIdentity => leftIdentity == rightIdentity
  | _, _ => false

def table? (schema : Schema) : Option (Table Schema) :=
  match schema.form with
  | .table table => some table
  | _ => none

def referenceTables? (schema : Schema) : Option (Option (List String)) :=
  match schema.form with
  | .reference tables _ => some tables
  | _ => none

def freeText : TextRules := ⟨.free, none, none, none, false⟩

def anyNumber : NumberRules := ⟨none, none, none, false⟩

/-- A reference to records of the given tables, with any identifier. -/
def referenceTo (tables : Option (List String)) : Schema :=
  anonymous (.reference tables (anonymous .any))

end Schema

def fieldNamed? {σ : Type} (name : String) (fields : List (String × σ)) : Option σ :=
  fields.lookup name

/-- Puts a schema under a name: a name that is there keeps its place. -/
def putField {σ : Type} (name : String) (schema : σ) :
    List (String × σ) → List (String × σ)
  | [] => [(name, schema)]
  | (present, old) :: rest =>
      if present = name then (present, schema) :: rest
      else (present, old) :: putField name schema rest

/-- Fields in the order of their first mention, each with its last schema. -/
def collectFields {σ : Type} (fields : List (String × σ)) : List (String × σ) :=
  fields.foldl (fun collected field => putField field.1 field.2 collected) []

theorem map_fst_putField {σ : Type} (name : String) (schema : σ)
    (fields : List (String × σ)) :
    (putField name schema fields).map Prod.fst =
      if name ∈ fields.map Prod.fst then fields.map Prod.fst
      else fields.map Prod.fst ++ [name] := by
  induction fields with
  | nil => simp [putField]
  | cons field rest ih =>
      rcases field with ⟨present, old⟩
      by_cases same : present = name
      · simp [putField, same]
      · have other : name ≠ present := fun equal => same equal.symm
        by_cases later : name ∈ rest.map Prod.fst <;> simp_all [putField]

end TypedTables
