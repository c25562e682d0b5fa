import TypedTables.FieldType.Basic
import TypedTables.Statement.Options
import TypedTables.Text.Casing

/-!
# Statements

The statements that define a table and its fields, remove a table or ask about it, and their
written form. Every name in a statement is written as an identifier and every value as a literal,
and each statement ends with a semicolon. A value without a literal cannot be written.
-/

namespace TypedTables

/-- The definition of a table. The endpoints of a relation are the tables it starts and ends in;
none stands for any table. -/
structure TableDefinition where
  existing : ExistingPolicy
  name : String
  mode : TableMode
  source : Option (List String)
  target : Option (List String)
  drops : Bool
  isStrict : Bool
  comment : Value

structure FieldDefinition where
  existing : ExistingPolicy
  path : List String
  table : String
  type : FieldType
  isFlexible : Bool
  default : Option Value
  comment : Value

inductive Statement where
  | defineTable (definition : TableDefinition)
  | defineField (definition : FieldDefinition)
  | removeTable (missing : MissingPolicy) (table : String)
  | describeTable (structured : Bool) (table : String)

namespace Clause

def existing : ExistingPolicy → String
  | .refuse => ""
  | .keep => " IF NOT EXISTS"
  | .overwrite => " OVERWRITE"

def missing : MissingPolicy → String
  | .refuse => ""
  | .ignore => " IF EXISTS"

/-- A comment; one that is null or empty is left out. -/
def comment (text : Value) : Except Fault String :=
  if text.isTruthy then text.literal.map (" COMMENT " ++ ·) else .ok ""

def default (value : Value) : Except Fault String := value.literal.map (" DEFAULT " ++ ·)

/-- Tables after a keyword; without tables the clause is left out. -/
def tables (keyword : String) (names : Option (List String)) : String :=
  match names with
  | some (name :: rest) => s!" {keyword} {FieldType.tableNames (name :: rest)}"
  | _ => ""

/-- A clause that may be left out. -/
def optional (isWritten : Bool) (clause : String) : String := if isWritten then clause else ""

end Clause

namespace TableDefinition

def endpoints (definition : TableDefinition) : String :=
  if definition.mode = .relation then
    Clause.tables "FROM" definition.source ++ Clause.tables "TO" definition.target
  else ""

def text (definition : TableDefinition) : Except Fault String :=
  (Clause.comment definition.comment).map fun comment =>
    "DEFINE TABLE" ++ Clause.existing definition.existing ++ " " ++
      Identifier.escapeText definition.name ++ " TYPE " ++
      Text.asciiUpper definition.mode.text ++ definition.endpoints ++
      Clause.optional definition.drops " DROP" ++
      (if definition.isStrict then " SCHEMAFULL" else " SCHEMALESS") ++ comment ++ ";"

end TableDefinition

namespace FieldDefinition

def name (definition : FieldDefinition) : String := Identifier.fieldPath definition.path

/-- The default, where there is one. -/
def defaultClause (definition : FieldDefinition) : Except Fault String :=
  match definition.default with
  | some value => Clause.default value
  | none => .ok ""

def text (definition : FieldDefinition) : Except Fault String :=
  definition.defaultClause.bind fun default =>
    (Clause.comment definition.comment).map fun comment =>
      "DEFINE FIELD" ++ Clause.existing definition.existing ++ " " ++ definition.name ++
        " ON TABLE " ++ Identifier.escapeText definition.table ++ " TYPE " ++
        definition.type.text ++ Clause.optional definition.isFlexible " FLEXIBLE" ++ default ++
        comment ++ ";"

end FieldDefinition

namespace Statement

def text : Statement → Except Fault String
  | .defineTable definition => definition.text
  | .defineField definition => definition.text
  | .removeTable missing table =>
      .ok ("REMOVE TABLE" ++ Clause.missing missing ++ " " ++ Identifier.escapeText table ++ ";")
  | .describeTable structured table =>
      .ok ("INFO FOR TABLE " ++ Identifier.escapeText table ++
        Clause.optional structured " STRUCTURE" ++ ";")

/-- The written forms of statements, one a line. -/
def joined (texts : List String) : String := "\n".intercalate texts

end Statement

inductive StatementKind where
  | define
  | remove
  | info
  | detail
  deriving DecidableEq, Repr

namespace StatementKind

def name : StatementKind → String
  | .define => "define"
  | .remove => "remove"
  | .info => "info"
  | .detail => "structure"

def ofValue (value : Value) : Except Fault StatementKind :=
  match value with
  | .text text =>
      match [define, remove, info, detail].find? fun kind => kind.name == text with
      | some kind => .ok kind
      | none => .error (.unknownStatement value.shown)
  | _ => .error (.unknownStatement value.shown)

end StatementKind
end TypedTables
