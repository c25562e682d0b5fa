import TypedTables.Calendar.Writing
import TypedTables.Number.FloatText
import TypedTables.Text.Quoted
import TypedTables.Value.Basic

/-!
# Shown values

The form in which a value appears inside messages: texts between quotation marks, containers
with their items, and every other value in a form that names its class.
-/

namespace TypedTables.Value

def truthWord (value : Bool) : String := if value then "True" else "False"

def joinShown (shown : List String) : String := ", ".intercalate shown

/-- Octets between quotation marks, those without a printed ASCII form by their codes. -/
def shownBytes (octets : List UInt8) : String :=
  let characters := octets.map fun octet => Char.ofNat octet.toNat
  let mark := Text.quoteMark characters
  let body := characters.flatMap fun character =>
    if 0x7e < character.toNat then Text.codeEscape character
    else Text.quotedCharacter mark character
  String.ofList ('b' :: mark :: (body ++ [mark]))

/-- A length of time by its days, seconds and microseconds; those that are zero are left out. -/
def shownDuration (microseconds : Int) : String :=
  let part (name : String) (size : Int) : List String :=
    if size = 0 then [] else [s!"{name}={size}"]
  let parts :=
    part "days" (microseconds.fdiv 86400000000) ++
      part "seconds" ((microseconds.fmod 86400000000).fdiv 1000000) ++
      part "microseconds" (microseconds.fmod 1000000)
  let body := if parts.isEmpty then "0" else joinShown parts
  s!"datetime.timedelta({body})"

/-- An offset from universal time: one that was read by its seconds, one that was given as a
zone. -/
def shownOffset (offset : Offset) : String :=
  match offset.origin with
  | .read =>
      let seconds := offset.microseconds.fdiv 1000000
      s!"TzInfo({seconds})"
  | .given =>
      if offset.microseconds = 0 then "datetime.timezone.utc"
      else
        let duration := shownDuration offset.microseconds
        s!"datetime.timezone({duration})"

/-- A point in time by its parts; seconds and microseconds that are zero are left out. -/
def shownTimestamp (value : Timestamp) : String :=
  let parts := [value.date.year, value.date.month, value.date.day, value.hour, value.minute]
  let clock :=
    if value.microsecond != 0 then [value.second, value.microsecond]
    else if value.second != 0 then [value.second]
    else []
  let zone := match value.offset with
    | none => []
    | some offset => ["tzinfo=" ++ shownOffset offset]
  s!"datetime.datetime({joinShown ((parts ++ clock).map toString ++ zone)})"

mutual

/-- The form of a value inside messages. -/
def shown : Value → String
  | .null => "None"
  | .undefined => "UNDEFINED"
  | .boolean value => truthWord value
  | .integer value => toString value
  | .float value => plainFloat.write value
  | .notANumber _ => "nan"
  | .decimal value => s!"Decimal('{value.text}')"
  | .text value => Text.quoted value
  | .bytes octets => shownBytes octets
  | .list items => s!"[{joinShown (shownItems items)}]"
  | .tuple [item] => s!"({shown item},)"
  | .tuple items => s!"({joinShown (shownItems items)})"
  | .mapping entries => "\x7b" ++ joinShown (shownEntries entries) ++ "\x7d"
  | .frozenMapping entries =>
      "mappingproxy(\x7b" ++ joinShown (shownEntries entries) ++ "\x7d)"
  | .set [] => "set()"
  | .set members => "\x7b" ++ joinShown (shownItems members) ++ "\x7d"
  | .frozenSet [] => "frozenset()"
  | .frozenSet members => "frozenset(\x7b" ++ joinShown (shownItems members) ++ "\x7d)"
  | .timestamp value => shownTimestamp value
  | .date value => s!"datetime.date({value.year}, {value.month}, {value.day})"
  | .uuid value => s!"UUID('{value.text}')"
  | .record table identifier => s!"RecordId(table={Text.quoted table}, id={shown identifier})"
  | .member _ value => s!"<Member.M: {shown value}>"
  | .symbol _ description => "Symbol(" ++ description.getD "" ++ ")"
  | .function value => s!"<function {value.name}>"
  | .supplier .. => "<function call>"
  | .awaitable .. => "<coroutine>"
  | .issue code message =>
      s!"Issue(code=<IssueCode: {Text.quoted code.text}>, message={Text.quoted message})"

def shownItems : List Value → List String
  | [] => []
  | item :: rest => shown item :: shownItems rest

def shownEntries : List (Value × Value) → List String
  | [] => []
  | (key, item) :: rest => s!"{shown key}: {shown item}" :: shownEntries rest

end

/-- The form of a value on its own, a record aside: texts as they are, dates, identifiers and
decimal numbers in their standard form, all else as inside messages. -/
def plainText : Value → String
  | .text value => value
  | .timestamp value => value.textWith " "
  | .date value => value.isoText
  | .uuid value => value.text
  | .decimal value => value.text
  | .frozenMapping entries => "\x7b" ++ joinShown (shownEntries entries) ++ "\x7d"
  | .member .. => "Member.M"
  | value => value.shown

end TypedTables.Value
