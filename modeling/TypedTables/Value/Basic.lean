import TypedTables.Calendar.Basic
import TypedTables.Fault
import TypedTables.Number.Decimal
import TypedTables.Uuid

/-!
# Values

The values that schemas validate and defaults hold. A value is plain data, with a token wherever
two occurrences that look alike must be told apart: numbers that are not a number, symbols, enum
members and awaitable values. A value that stands for absence is separate from the null value.
-/

namespace TypedTables

/-- The kinds of validation issues. -/
inductive IssueCode where
  | invalidType
  | invalidValue
  | invalidFormat
  | invalidUnion
  | invalidKey
  | unrecognizedKeys
  | tooSmall
  | tooBig
  | custom
  deriving DecidableEq, Repr

def IssueCode.text : IssueCode → String
  | .invalidType => "invalid_type"
  | .invalidValue => "invalid_value"
  | .invalidFormat => "invalid_format"
  | .invalidUnion => "invalid_union"
  | .invalidKey => "invalid_key"
  | .unrecognizedKeys => "unrecognized_keys"
  | .tooSmall => "too_small"
  | .tooBig => "too_big"
  | .custom => "custom"

/-- The operations that functions among the values are named after. -/
inductive Operation where
  | accept
  | refuse
  | truthy
  | even
  | long
  | same
  | fail
  | upper
  | length
  | double
  | wrap
  | null
  | undefined
  | zero
  | codes
  | messages
  deriving DecidableEq, Repr

/-- A function as a value, known by its name only; a deferred one has to be awaited. -/
structure NamedFunction where
  operation : Operation
  deferred : Bool
  deriving DecidableEq, Repr

def Operation.names : List (String × Operation) :=
  [("true", .accept), ("false", .refuse), ("truthy", .truthy), ("even", .even), ("long", .long),
    ("value", .same), ("boom", .fail), ("upper", .upper), ("len", .length), ("double", .double),
    ("wrap", .wrap), ("null", .null), ("undefined", .undefined), ("zero", .zero),
    ("codes", .codes), ("messages", .messages)]

def Operation.name (operation : Operation) : String :=
  ((names.find? fun entry => entry.2 == operation).map Prod.fst).getD ""

/-- The name of a function by its label; that of a deferred one carries a mark before it. -/
def functionName (deferred : Bool) (label : String) : String :=
  (if deferred then "async:" else "") ++ label

def NamedFunction.name (function : NamedFunction) : String :=
  functionName function.deferred function.operation.name

def NamedFunction.ofName? (name : String) : Option NamedFunction :=
  match Operation.names.lookup name with
  | some operation => some ⟨operation, false⟩
  | none =>
      if name.startsWith "async:" then
        (Operation.names.lookup (String.ofList (name.toList.drop 6))).map fun operation =>
          ⟨operation, true⟩
      else none

inductive Value where
  | null
  | undefined
  | boolean (value : Bool)
  | integer (value : Int)
  | float (value : Binary64)
  | notANumber (token : Nat)
  | decimal (value : Decimal)
  | text (value : String)
  | bytes (octets : List UInt8)
  | list (items : List Value)
  | tuple (items : List Value)
  | mapping (entries : List (Value × Value))
  | frozenMapping (entries : List (Value × Value))
  | set (members : List Value)
  | frozenSet (members : List Value)
  | timestamp (value : Timestamp)
  | date (value : CivilDate)
  | uuid (value : Uuid)
  | record (table : String) (identifier : Value)
  | member (token : Nat) (value : Value)
  | symbol (token : Nat) (description : Option String)
  | function (value : NamedFunction)
  /-- A function without arguments, and how a call of it ends. -/
  | supplier (token : Nat) (outcome : Except Fault Value)
  /-- A value to be awaited, and how that ends. It can be awaited once; the token zero stands for a new
  one wherever it is met. -/
  | awaitable (token : Nat) (outcome : Except Fault Value)
  /-- A validation issue handed to a user function. -/
  | issue (code : IssueCode) (message : String)
  deriving Repr

namespace Value

/-- The name of a value's class, as messages give it. -/
def className : Value → String
  | .null => "NoneType"
  | .undefined => "_Undefined"
  | .boolean _ => "bool"
  | .integer _ => "int"
  | .float _ | .notANumber _ => "float"
  | .decimal _ => "Decimal"
  | .text _ => "str"
  | .bytes _ => "bytes"
  | .list _ => "list"
  | .tuple _ => "tuple"
  | .mapping _ => "dict"
  | .frozenMapping _ => "mappingproxy"
  | .set _ => "set"
  | .frozenSet _ => "frozenset"
  | .timestamp _ => "datetime"
  | .date _ => "date"
  | .uuid _ => "UUID"
  | .record .. => "RecordId"
  | .member .. => "Member"
  | .symbol .. => "Symbol"
  | .function _ | .supplier .. => "function"
  | .awaitable .. => "coroutine"
  | .issue .. => "Issue"

/-- The class name with the module it comes from, where that is not the built-in one. -/
def qualifiedClassName : Value → String
  | .timestamp _ => "datetime.datetime"
  | .date _ => "datetime.date"
  | .decimal _ => "decimal.Decimal"
  | value => value.className

/-- The kind of a value, as issues give it: numbers, texts and containers by what they hold, any
other value by its class. -/
def kindName : Value → String
  | .undefined => "undefined"
  | .null => "null"
  | .boolean _ => "boolean"
  | .integer _ | .float _ | .notANumber _ => "number"
  | .text _ => "string"
  | .timestamp _ => "date"
  | .list _ | .tuple _ => "array"
  | .set _ | .frozenSet _ => "set"
  | .mapping _ => "object"
  | value => value.className

def entries? : Value → Option (List (Value × Value))
  | .mapping entries | .frozenMapping entries => some entries
  | _ => none

def items? : Value → Option (List Value)
  | .list items | .tuple items => some items
  | _ => none

def members? : Value → Option (List Value)
  | .set members | .frozenSet members => some members
  | _ => none

def isUndefined : Value → Bool
  | .undefined => true
  | _ => false

def isNull : Value → Bool
  | .null => true
  | _ => false

def isText : Value → Bool
  | .text _ => true
  | _ => false

def isBoolean : Value → Bool
  | .boolean _ => true
  | _ => false

def isAwaitable : Value → Bool
  | .awaitable .. => true
  | _ => false

/-- User functions and suppliers can be called. -/
def isCallable : Value → Bool
  | .function _ | .supplier .. => true
  | _ => false

def size? : Value → Option Nat
  | .text value => some value.length
  | .bytes octets => some octets.length
  | .list items | .tuple items => some items.length
  | .mapping entries | .frozenMapping entries => some entries.length
  | .set members | .frozenSet members => some members.length
  | _ => none

/-- Whether a value counts as true: absence, null, false, zero and everything empty do not. -/
def isTruthy : Value → Bool
  | .null | .undefined => false
  | .boolean value => value
  | .integer value => value != 0
  | .float value => !value.isZero
  | .decimal (.finite _ coefficient _) => coefficient != 0
  | value => value.size? != some 0

end Value
end TypedTables
