import TypedTables.Calendar.Reading
import TypedTables.Email
import TypedTables.Pattern.Reading
import TypedTables.Schema.Basic
import TypedTables.Text.Casing
import TypedTables.Url.Reading
import TypedTables.Validation.Payload

/-!
# Leaves

The schemas without parts: texts, numbers, identifiers, dates and listed values. Each is a
function from a value to a payload; only a malformed rule, or a bound that cannot be compared,
is a fault.
-/

namespace TypedTables.Leaf

/-- A comparison of two values, by the sign that its refusal shows. -/
inductive Comparison where
  | less
  | greater
  | atLeast
  | atMost
  deriving DecidableEq

def Comparison.sign : Comparison → String
  | .less => "<"
  | .greater => ">"
  | .atLeast => ">="
  | .atMost => "<="

def Comparison.holds : Comparison → Magnitude → Magnitude → Bool
  | .less, left, right => left.less right
  | .greater, left, right => right.less left
  | .atLeast, left, right => !left.less right
  | .atMost, left, right => !right.less left

/-- Compares numbers; what is not a number compares with nothing, and what is no number at all
cannot be compared. -/
def compareNumbers (comparison : Comparison) (left right : Value) : Except Fault Bool :=
  match left.magnitude?, right.magnitude? with
  | some leftSize, some rightSize => .ok (comparison.holds leftSize rightSize)
  | some _, none =>
      match right with
      | .notANumber _ | .decimal _ => .ok false
      | _ => .error (.operand (s!"'{comparison.sign}' not supported between instances of " ++
          s!"'{left.qualifiedClassName}' and '{right.qualifiedClassName}'"))
  | none, _ => .ok false

def sizeIssue (comparison : Comparison) (code : IssueCode) (size : Nat) (bound : Option Value)
    (message : String → String) (value : Value) : Except Fault (List Issue) :=
  match bound with
  | none => .ok []
  | some limit =>
      (compareNumbers comparison (.integer (Int.ofNat size)) limit).bind fun broken =>
        if broken then limit.plain.map fun text => [Issue.plain code (message text) value]
        else .ok []

/-- The issues of a size outside its bounds; `label` and `unit` word the messages. -/
def boundIssues (label unit : String) (size : Nat) (least most : Option Value) (value : Value) :
    Except Fault (List Issue) :=
  (sizeIssue .less .tooSmall size least
    (fun text => s!"{label} must contain at least {text} {unit}") value).bind fun below =>
      (sizeIssue .greater .tooBig size most
        (fun text => s!"{label} must contain at most {text} {unit}") value).map fun above =>
          below ++ above

/-- A value as a text, where texts are coerced; null becomes a word of its own. -/
def coerceText (value : Value) : Except Fault Value :=
  match value with
  | .undefined | .text _ => .ok value
  | .null => .ok (.text "null")
  | _ => value.plain.map .text

def patternIssues (pattern : Option String) (text : String) : Except Fault (List Issue) :=
  match pattern with
  | none => .ok []
  | some written =>
      match Pattern.ofText written with
      | .error cause => .error (.malformedPattern cause)
      | .ok parsed =>
          .ok (if parsed.occursIn text then []
            else [Issue.plain .invalidFormat
              s!"Invalid string: must match pattern {written}" (.text text)])

/-- Checks what a text has to be beyond a text. -/
def checkFormat (format : TextFormat) (text : String) : Payload :=
  match format with
  | .free => .accept (.text text)
  | .email =>
      if Email.isAddress text.toList then .accept (.text text)
      else .reject (.text text) (Issue.plain .invalidFormat "Invalid email address" (.text text))
  | .url protocols normalize =>
      match Url.ofText? text with
      | none => .reject (.text text) (Issue.plain .invalidFormat "Invalid URL" (.text text))
      | some url =>
          if protocols.any fun allowed => !allowed.contains url.scheme then
            .reject (.text text)
              (Issue.plain .invalidFormat s!"Invalid URL protocol: {url.scheme}" (.text text))
          else .accept (.text (if normalize then url.text else text))

/-- Texts: bounds and pattern first, and the format when they hold. -/
def text (rules : TextRules) (input : Value) : Except Fault Payload :=
  (if rules.coerce then coerceText input else .ok input).bind fun value =>
    match value with
    | .text characters =>
        (boundIssues "String" "character(s)" characters.length rules.least rules.most
          value).bind fun sizes =>
            (patternIssues rules.pattern characters).map fun mismatch =>
              if (sizes ++ mismatch).isEmpty then checkFormat rules.format characters
              else ⟨value, sizes ++ mismatch⟩
    | _ => .ok (.wrongKind "string" value)

/-- The range of a number format: its ends, and whether only whole numbers belong to it. -/
structure NumberRange where
  low : Value
  high : Value
  whole : Bool

def largestSingle : Binary64 := .ofRatio false ((Nat.pow 2 24 - 1) * Nat.pow 2 104) 1

/-- The same number on the other side of zero. -/
def opposite : Binary64 → Binary64
  | .finite negative significand exponent => .finite (!negative) significand exponent
  | .infinite negative => .infinite (!negative)

def numberRange? : String → Option NumberRange
  | "safeint" => some ⟨.integer (-(Int.pow 2 53 - 1)), .integer (Int.pow 2 53 - 1), true⟩
  | "int32" => some ⟨.integer (-Int.pow 2 31), .integer (Int.pow 2 31 - 1), true⟩
  | "uint32" => some ⟨.integer 0, .integer (Int.pow 2 32 - 1), true⟩
  | "float32" => some ⟨.float (opposite largestSingle), .float largestSingle, false⟩
  | "float64" => some ⟨.float (opposite Binary64.largest), .float Binary64.largest, false⟩
  | _ => none

def bigintRange? : String → Option (Int × Int)
  | "int64" => some (-Int.pow 2 63, Int.pow 2 63 - 1)
  | "uint64" => some (0, Int.pow 2 64 - 1)
  | _ => none

/-- A text as a number, where numbers are coerced. -/
def coerceNumber (value : Value) : Value :=
  match value with
  | .text written =>
      match FloatReading.ofText? written with
      | some (.number number) => .float number
      | some .notANumber => .notANumber 0
      | none => value
  | _ => value

def numberIssue (comparison : Comparison) (code : IssueCode) (relation : String) (limit value : Value) :
    Except Fault (List Issue) :=
  (compareNumbers comparison value limit).bind fun holds =>
    if holds then .ok []
    else limit.plain.map fun text => [Issue.plain code s!"Number must be {relation} {text}" value]

def numberBoundIssues (rules : NumberRules) (value : Value) : Except Fault (List Issue) :=
  let below : Except Fault (List Issue) := match rules.least with
    | none => .ok []
    | some ⟨limit, true⟩ => numberIssue .atLeast .tooSmall "greater than or equal to" limit value
    | some ⟨limit, false⟩ => numberIssue .greater .tooSmall "greater than" limit value
  let above : Except Fault (List Issue) := match rules.most with
    | none => .ok []
    | some ⟨limit, true⟩ => numberIssue .atMost .tooBig "less than or equal to" limit value
    | some ⟨limit, false⟩ => numberIssue .less .tooBig "less than" limit value
  below.bind fun belowIssues => above.map fun aboveIssues => belowIssues ++ aboveIssues

/-- A whole number, as an integer or as a number with a point. -/
def isWhole : Value → Bool
  | .integer _ => true
  | .float number => number.toInt?.isSome
  | _ => false

def rangeIssues (range : NumberRange) (value : Value) : Except Fault (List Issue) :=
  (numberIssue .atLeast .tooSmall "greater than or equal to" range.low value).bind fun below =>
    (numberIssue .atMost .tooBig "less than or equal to" range.high value).map fun above =>
      below ++ above

/-- Finite numbers: the range of the format, and the bounds. -/
def number (rules : NumberRules) (input : Value) : Except Fault Payload :=
  let value := if rules.coerce then coerceNumber input else input
  let isFinite := match value with
    | .integer _ => true
    | .float number => number.isFinite
    | _ => false
  if !isFinite then .ok (.wrongKind "number" value)
  else
    match rules.format.bind numberRange? with
    | some range =>
        if range.whole && !isWhole value then .ok (.wrongKind "int" value)
        else
          (rangeIssues range value).bind fun outside =>
            (numberBoundIssues rules value).map fun beyond => ⟨value, outside ++ beyond⟩
    | none => (numberBoundIssues rules value).map fun beyond => ⟨value, beyond⟩

def bigint (format : Option String) (value : Value) : Payload :=
  match value with
  | .integer number =>
      match format.bind bigintRange? with
      | none => .accept value
      | some (low, high) =>
          if number < low then
            .reject value (Issue.plain .tooSmall
              s!"BigInt must be greater than or equal to {low}" value)
          else if high < number then
            .reject value (Issue.plain .tooBig s!"BigInt must be less than or equal to {high}" value)
          else .accept value
  | _ => .wrongKind "bigint" value

def demandedVersion? : String → Option Nat
  | "uuidv4" => some 4
  | "uuidv6" => some 6
  | "uuidv7" => some 7
  | _ => none

/-- Checks layout and version of an identifier; the extreme ones need no layout. -/
def checkUuid (format : String) (uuid : Uuid) (value : Value) : Payload :=
  let refuse (message : String) : Payload :=
    .reject value (Issue.plain .invalidFormat message value)
  if format = "guid" then .accept (.uuid uuid)
  else if !uuid.hasVersion && !uuid.isExtreme then refuse "Invalid UUID"
  else
    match demandedVersion? format with
    | none => .accept (.uuid uuid)
    | some version =>
        if uuid.version? = some version then .accept (.uuid uuid)
        else refuse s!"Invalid UUIDv{version}"

def uuid (format : String) (value : Value) : Payload :=
  match value with
  | .uuid identifier => checkUuid format identifier value
  | .text written =>
      match Uuid.ofText? written with
      | some identifier => checkUuid format identifier value
      | none =>
          .reject value (Issue.plain .invalidFormat
            s!"Invalid {String.ofList (Text.upperCase format.toList)}" value)
  | _ => .wrongKind "uuid" value

/-- The point in time that a text or number is coerced to. -/
def coerceTimestamp? : Value → Option Timestamp
  | .text written => Timestamp.ofText? written
  | .integer count => Timestamp.ofCount? count
  | .float count => Timestamp.ofBinary64? count
  | _ => none

/-- Points in time, and texts and numbers where they are coerced. -/
def date (coerce : Bool) (value : Value) : Payload :=
  match value with
  | .timestamp _ => .accept value
  | .text _ | .integer _ | .float _ | .notANumber _ =>
      if coerce then
        match coerceTimestamp? value with
        | some timestamp => .accept (.timestamp timestamp)
        | none => .reject value (Issue.plain .invalidFormat "Invalid date" value)
      else .wrongKind "date" value
  | _ => .wrongKind "date" value

def shownChoices (values : List Value) : String :=
  " | ".intercalate (values.map Value.shown)

def unlisted (values : List Value) (message : String) (input : Value) : Issue :=
  { Issue.plain .invalidValue message input with values := some values }

/-- One of the listed values; an enum member stands for its value. -/
def enumeration (values : List Value) (input : Value) : Payload :=
  let value := match input with
    | .member _ inner => inner
    | _ => input
  if values.any fun expected => Value.sameLiteral expected value then .accept value
  else .reject input (unlisted values
    s!"Invalid option: expected one of {shownChoices values}" input)

def literal (values : List Value) (input : Value) : Payload :=
  if values.any fun expected => Value.sameLiteral expected input then .accept input
  else
    let message := match values with
      | [only] => s!"Invalid input: expected {only.shown}"
      | _ => s!"Invalid option: expected one of {shownChoices values}"
    .reject input (unlisted values message input)

def ofKind (expected : String) (passes : Value → Bool) (value : Value) : Payload :=
  if passes value then .accept value else .wrongKind expected value

def payload? (form : Form Schema) (value : Value) : Option (Except Fault Payload) :=
  match form with
  | .any | .unknown => some (.ok (.accept value))
  | .never => some (.ok (.wrongKind "never" value))
  | .undefined => some (.ok (ofKind "undefined" Value.isUndefined value))
  | .void => some (.ok (ofKind "void" Value.isUndefined value))
  | .null => some (.ok (ofKind "null" Value.isNull value))
  | .boolean => some (.ok (ofKind "boolean" Value.isBoolean value))
  | .text rules => some (text rules value)
  | .uuid format => some (.ok (uuid format value))
  | .number rules => some (number rules value)
  | .bigint format => some (.ok (bigint format value))
  | .date coerce => some (.ok (date coerce value))
  | .enumeration values => some (.ok (enumeration values value))
  | .literal values => some (.ok (literal values value))
  | .symbol =>
      some (.ok (ofKind "symbol" (fun other => match other with
        | .symbol .. => true
        | _ => false) value))
  | .function => some (.ok (ofKind "function" Value.isCallable value))
  | _ => none

end TypedTables.Leaf
