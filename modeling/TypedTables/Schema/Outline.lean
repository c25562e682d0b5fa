import TypedTables.Schema.Basic
import TypedTables.Value.Written

/-!
# Outlines

An outline is a one-line view of a schema: its kind, its rules and its parts between parentheses.
Objects and tables are shown without their fields, and a lazy schema by the name of its target.
-/

namespace TypedTables

namespace Outline

/-- Texts with blanks between them. -/
def spaced (parts : List String) : String := " ".intercalate parts

def bound (label : String) : Option Value → Except Fault (List String)
  | some value => value.plain.map fun text => [label ++ text]
  | none => .ok []

def refinementCount (refinements : List Refinement) : List String :=
  if refinements.isEmpty then [] else [s!"refine:{refinements.length}"]

def labelled (label : String) (rules : List String) : String :=
  if rules.isEmpty then s!"({label})" else s!"({label} [{spaced rules}])"

def textRules (rules : TextRules) : Except Fault (List String) := do
  let least ← bound "min:" rules.least
  let most ← bound "max:" rules.most
  let pattern := match rules.pattern with
    | some text => ["regex:" ++ text]
    | none => []
  let format := match rules.format with
    | .free => []
    | .email => ["format:email"]
    | .url .. => ["format:url"]
  return least ++ most ++ pattern ++ format

def numberRules (rules : NumberRules) : Except Fault (List String) := do
  let format := match rules.format with
    | some name => ["format:" ++ name]
    | none => []
  let least ← match rules.least with
    | some limit => bound (if limit.inclusive then ">=" else ">") (some limit.limit)
    | none => .ok []
  let most ← match rules.most with
    | some limit => bound (if limit.inclusive then "<=" else "<") (some limit.limit)
    | none => .ok []
  return format ++ least ++ most

def lazyName : LazyTarget Schema → String
  | .table name => name
  | _ => "?"

def wrapped (label : String) (part : Except Fault String) : Except Fault String :=
  part.map fun inner => s!"({label} {inner})"

def paired (label : String) (first second : Except Fault String) : Except Fault String :=
  first.bind fun firstPart => second.map fun secondPart => s!"({label} {firstPart} {secondPart})"

mutual

def ofSchema : Schema → Except Fault String
  | ⟨_, refinements, _, form⟩ => ofForm (refinementCount refinements) form

/-- The outline of a form, given how its refinements are shown. -/
def ofForm (refinements : List String) : Form Schema → Except Fault String
  | .text rules => (textRules rules).map fun shown =>
      labelled "string" (shown ++ refinements)
  | .uuid format => .ok (labelled "uuid" (("format:" ++ format) :: refinements))
  | .number rules => (numberRules rules).map fun shown =>
      labelled "number" (shown ++ refinements)
  | .bigint format =>
      let shown := match format with
        | some name => ["format:" ++ name]
        | none => []
      .ok (labelled "bigint" (shown ++ refinements))
  | .optional inner => wrapped "optional" (ofSchema inner)
  | .nullable inner => wrapped "nullable" (ofSchema inner)
  | .nonoptional inner => wrapped "nonoptional" (ofSchema inner)
  | .default inner _ => wrapped "default" (ofSchema inner)
  | .prefault inner _ => wrapped "prefault" (ofSchema inner)
  | .fallback inner _ => wrapped "catch" (ofSchema inner)
  | .readonly inner => wrapped "readonly" (ofSchema inner)
  | .promise inner => wrapped "promise" (ofSchema inner)
  | .array element _ _ => wrapped "array" (ofSchema element)
  | .set element _ _ => wrapped "set" (ofSchema element)
  | .record key value => paired "record" (ofSchema key) (ofSchema value)
  | .map key value => paired "map" (ofSchema key) (ofSchema value)
  | .intersection left right => paired "intersection" (ofSchema left) (ofSchema right)
  | .pipe source target => paired "pipe" (ofSchema source) (ofSchema target)
  | .tuple items _ => (ofSchemas items).map fun parts =>
      if items.isEmpty then "(tuple)" else s!"(tuple {spaced parts})"
  | .union options => (ofSchemas options).map fun parts => s!"(union {spaced parts})"
  | .enumeration values => .ok s!"(enum {spaced (values.map Value.shown)})"
  | .literal values => .ok s!"(literal {spaced (values.map Value.shown)})"
  | .reference tables identifier =>
      let names := match tables with
        | some (name :: rest) => " | ".intercalate (name :: rest)
        | _ => "*"
      (ofSchema identifier).map fun part => s!"(record_id {names} {part})"
  | .table table => .ok s!"(table {table.name})"
  | .lazily target => .ok s!"(lazy {lazyName target})"
  | form => .ok s!"({form.kind.name})"

def ofSchemas : List Schema → Except Fault (List String)
  | [] => .ok []
  | schema :: rest =>
      (ofSchema schema).bind fun first => (ofSchemas rest).map fun others => first :: others

end

end Outline

def Schema.outline (schema : Schema) : Except Fault String := Outline.ofSchema schema

end TypedTables
