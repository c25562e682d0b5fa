import TypedTables.Fault
import TypedTables.Identifier
import TypedTables.Schema.Basic
import TypedTables.Value.Written

/-!
# Field types

The type of a field in the database is a set of alternatives in the order in which they were
found. An alternative is a named type, a literal, or a container or record type with parameters.
Two alternatives with one written form are the same alternative. A type without alternatives, or
with the alternative that permits everything, permits everything.
-/

namespace TypedTables

inductive TypeAtom where
  | any
  | none
  | null
  | bool
  | string
  | number
  | int
  | float
  | datetime
  | uuid
  | record
  | object
  | array
  /-- A single value, written as a literal. -/
  | literal (value : Value)
  /-- A container of elements of a type. -/
  | arrayOf (element : List TypeAtom)
  /-- A container of elements of one of the types listed. -/
  | tupleOf (elements : List (List TypeAtom))
  /-- A record of one of the tables listed. -/
  | recordOf (tables : List String)
  /-- A type that was given by its written form. -/
  | verbatim (text : String)
  deriving Repr

abbrev FieldType := List TypeAtom

namespace FieldType

/-- The written form of the type that permits everything. -/
def anyText : String := "any"

def joined (texts : List String) : String :=
  if texts.isEmpty || texts.contains anyText then anyText else " | ".intercalate texts

/-- The written form of a literal; lowering makes literals only of values that have one. -/
def literalText (value : Value) : String :=
  match value.literal with
  | .ok text => text
  | .error _ => ""

def tableNames (tables : List String) : String :=
  " | ".intercalate (tables.map Identifier.escapeText)

mutual

def atomText : TypeAtom → String
  | .any => anyText
  | .none => "none"
  | .null => "null"
  | .bool => "bool"
  | .string => "string"
  | .number => "number"
  | .int => "int"
  | .float => "float"
  | .datetime => "datetime"
  | .uuid => "uuid"
  | .record => "record"
  | .object => "object"
  | .array => "array"
  | .literal value => literalText value
  | .arrayOf element => "array<" ++ joined (atomTexts element) ++ ">"
  | .tupleOf elements => "[" ++ ", ".intercalate (typeTexts elements) ++ "]"
  | .recordOf tables => "record<" ++ tableNames tables ++ ">"
  | .verbatim text => text

def atomTexts : List TypeAtom → List String
  | [] => []
  | atom :: rest => atomText atom :: atomTexts rest

def typeTexts : List (List TypeAtom) → List String
  | [] => []
  | type :: rest => joined (atomTexts type) :: typeTexts rest

end

def text (type : FieldType) : String := joined (atomTexts type)

def isOpen (type : FieldType) : Bool := type.text == anyText

def add (atom : TypeAtom) (type : FieldType) : FieldType :=
  if (atomTexts type).contains (atomText atom) then type else type ++ [atom]

def addAll (atoms : List TypeAtom) (type : FieldType) : FieldType :=
  atoms.foldl (fun collected atom => add atom collected) type

/-- Types in the order of their first mention, each once. -/
def distinct (types : List FieldType) : List FieldType :=
  types.foldl (fun kept type =>
    if (kept.map text).contains type.text then kept else kept ++ [type]) []

/-- The alternative for absence is dropped, unless it is the only one. -/
def withoutAbsence (type : FieldType) : FieldType :=
  if 1 < type.length then type.filter fun atom => atomText atom != "none" else type

theorem atomTexts_eq_map (atoms : List TypeAtom) : atomTexts atoms = atoms.map atomText := by
  induction atoms with
  | nil => simp [atomTexts]
  | cons atom rest ih => simp [atomTexts, ih]

theorem typeTexts_eq_map (types : List FieldType) : typeTexts types = types.map text := by
  induction types with
  | nil => simp [typeTexts]
  | cons type rest ih => simp [typeTexts, ih, text]

theorem atomTexts_add (atom : TypeAtom) (type : FieldType) :
    atomTexts (add atom type) =
      if atomText atom ∈ atomTexts type then atomTexts type
      else atomTexts type ++ [atomText atom] := by
  by_cases present : atomText atom ∈ atomTexts type
  · have kept : add atom type = type := by simp [add, present]
    rw [kept, if_pos present]
  · have grown : add atom type = type ++ [atom] := by simp [add, present]
    rw [grown, if_neg present]
    simp [atomTexts_eq_map]

def ofNumberFormat? : Option String → Option TypeAtom
  | none => some .number
  | some "safeint" | some "int32" | some "uint32" => some .int
  | some "float32" | some "float64" => some .float
  | some _ => none

def ofWholeFormat? : Option String → Option TypeAtom
  | none | some "int64" | some "uint64" => some .int
  | some _ => none

/-- The type of numbers of a kind in a format; only one kind is for large whole numbers. -/
def ofNumeric (kind : String) (format : Option String) : Except Fault TypeAtom :=
  match if kind = "bigint" then ofWholeFormat? format else ofNumberFormat? format with
  | some atom => .ok atom
  | none => .error (.lowering (.unsupportedFormat kind (format.getD "")) none)

def permitsKey : TypeAtom → Bool
  | .string | .number | .int | .float => true
  | .literal value =>
      match value with
      | .text _ | .timestamp _ | .date _ | .uuid _ | .record .. => true
      | .integer _ | .float _ | .notANumber _ | .decimal _ => true
      | _ => false
  | _ => false

end FieldType

/-- The type of the schemas of a kind, where the kind alone decides; other kinds are taken apart. -/
def Kind.ownType : Kind → TypeAtom
  | .never | .undefined | .void => .none
  | .null => .null
  | .boolean => .bool
  | .string | .email | .url => .string
  | .uuid => .uuid
  | .number => .number
  | .bigint => .int
  | .date => .datetime
  | .object | .record | .map | .table => .object
  | .array | .set | .tuple => .array
  | .reference => .record
  | _ => .any

end TypedTables
