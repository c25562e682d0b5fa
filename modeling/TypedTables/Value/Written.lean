import TypedTables.Fault
import TypedTables.Identifier
import TypedTables.Json.Text
import TypedTables.Value.Display

/-!
# Written values

Null, truth values, numbers, texts, lists and mappings have a form in data notation. Two styles
of writing differ in the texts they escape and in what becomes of every other value. Literals of
the database language write dates, identifiers and records as texts, decimal numbers as plain
numbers and sets as arrays, and refuse the rest. Log lines write any other value as the text it
has on its own.

A record is written `table:identifier`; a text or whole number stands for itself in it, any other
identifier as a literal.
-/

namespace TypedTables

/-- How values are written. -/
inductive WritingStyle where
  | literal
  | log
  deriving DecidableEq, Repr

namespace WritingStyle

/-- Log lines hold printing ASCII characters only. -/
def asciiOnly : WritingStyle → Bool
  | .literal => false
  | .log => true

end WritingStyle

namespace Written

def truthWord (value : Bool) : String := if value then "true" else "false"

def arrayText (items : List String) : String := "[" ++ ", ".intercalate items ++ "]"

def objectText (entries : List String) : String :=
  "\x7b" ++ ", ".intercalate entries ++ "\x7d"

/-- A key as a text: numbers, truth values and null become texts. -/
def keyText : Value → Except Fault String
  | .text value => .ok value
  | .null => .ok "null"
  | .boolean value => .ok (truthWord value)
  | .integer value => .ok (toString value)
  | .float value => .ok (dataFloat.write value)
  | .notANumber _ => .ok "NaN"
  | value => .error (.unusableKey value.qualifiedClassName)

/-- The form of values that data notation and the recursion below leave over. -/
def otherText (style : WritingStyle) (value : Value) : Except Fault String :=
  match style with
  | .log => .ok (Json.quoted true value.plainText)
  | .literal =>
      match value with
      | .timestamp value => .ok (Json.quoted false value.isoText)
      | .date value => .ok (Json.quoted false value.isoText)
      | .uuid value => .ok (Json.quoted false value.text)
      | .decimal value =>
          .ok (match value.toBinary64? with
            | some number => dataFloat.write number
            | none => "NaN")
      | _ => .error (.noLiteral value.className)

mutual

def write (style : WritingStyle) : Value → Except Fault String
  | .null => .ok "null"
  | .boolean value => .ok (truthWord value)
  | .integer value => .ok (toString value)
  | .float value => .ok (dataFloat.write value)
  | .notANumber _ => .ok "NaN"
  | .text value => .ok (Json.quoted style.asciiOnly value)
  | .list items => (writeItems style items).map arrayText
  | .tuple items => (writeItems style items).map arrayText
  | .mapping entries => (writeEntries style entries).map objectText
  | .set members =>
      match style with
      | .literal => (writeItems style members).map arrayText
      | .log => otherText style (.set members)
  | .frozenSet members =>
      match style with
      | .literal => (writeItems style members).map arrayText
      | .log => otherText style (.frozenSet members)
  | .record table identifier =>
      (recordText table identifier).map (Json.quoted style.asciiOnly)
  | value => otherText style value

/-- The written forms of several values; the first refusal ends it. -/
def writeItems (style : WritingStyle) : List Value → Except Fault (List String)
  | [] => .ok []
  | item :: rest =>
      (write style item).bind fun first =>
        (writeItems style rest).map fun others => first :: others

/-- The written forms of entries; the first refusal ends it. -/
def writeEntries (style : WritingStyle) : List (Value × Value) → Except Fault (List String)
  | [] => .ok []
  | (key, item) :: rest =>
      (keyText key).bind fun keyWritten =>
        (write style item).bind fun itemWritten =>
          (writeEntries style rest).map fun others =>
            s!"{Json.quoted style.asciiOnly keyWritten}: {itemWritten}" :: others

/-- `table:identifier`. -/
def recordText (table : String) : Value → Except Fault String
  | .text value => .ok s!"{Identifier.escapeText table}:{Identifier.escapeText value}"
  | .integer value => .ok s!"{Identifier.escapeText table}:{value}"
  | .null => .ok s!"{Identifier.escapeText table}:NULL"
  | identifier =>
      (write .literal identifier).map fun literal => s!"{Identifier.escapeText table}:{literal}"

end

end Written

namespace Value

/-- The literal of a value; null alone is written in capitals. -/
def literal (value : Value) : Except Fault String :=
  if value.isNull then .ok "NULL" else Written.write .literal value

/-- The text of a value on its own. -/
def plain : Value → Except Fault String
  | .record table identifier => Written.recordText table identifier
  | value => .ok value.plainText

end Value
end TypedTables
