import TypedTables.Calendar.Writing
import TypedTables.Log.Entry
import TypedTables.Settings
import TypedTables.Value.Template

/-!
# Log lines

A log record is written as a line of data notation or as a line for reading. A line of data holds
the moment, the level, the logger, the message, the context, the attached entries, the failure
and the place in the source, each under its name and in this order. A line for reading has the
table, field and statement of the context between brackets.
-/

namespace TypedTables

namespace Log

/-- The numbers of the named levels; a number has the first of its names. -/
def levelNumbers : List (String × Int) :=
  [("CRITICAL", 50), ("ERROR", 40), ("WARNING", 30), ("INFO", 20), ("DEBUG", 10), ("NOTSET", 0),
    ("FATAL", 50), ("WARN", 30)]

def levelName (level : Int) : String :=
  match levelNumbers.find? fun entry => entry.2 == level with
  | some entry => entry.1
  | none => s!"Level {level}"

/-- The number of a level by its name in any case; other names mean information. -/
def levelNumber (name : String) : Int :=
  (levelNumbers.lookup (String.ofList (Text.upperCase name.toList))).getD 20

/-- What a record says: a text as it is, or a template with what its conversions draw on. -/
inductive Message where
  | plain (text : List Point)
  | filled (template : String) (arguments : List Value)

namespace Message

/-- What conversions draw on: a single mapping is drawn on by key. -/
def templateArguments (arguments : List Value) : Template.Arguments :=
  match arguments with
  | [only] =>
      match only.entries? with
      | some (entry :: rest) => ⟨[], some (entry :: rest)⟩
      | _ => ⟨[only], none⟩
  | several => ⟨several, none⟩

/-- The message with its arguments put in; a template without arguments is taken as it is. -/
def text : Message → Except Fault (List Point)
  | .plain points => .ok points
  | .filled template arguments =>
      if arguments.isEmpty then .ok (Point.ofText template)
      else Template.format template (templateArguments arguments)

end Message

structure Record where
  logger : List Point
  level : Int
  file : String
  line : Int
  message : Message
  function : Option String
  attached : Option Datum
  failure : Option String

namespace Record

/-- The last part of the path of the source file. -/
def fileName (record : Record) : String :=
  String.ofList (record.file.toList.reverse.takeWhile (· != '/')).reverse

/-- The attached entries, unless there are none. -/
def attachment? (record : Record) : Option Datum := record.attached.filter Datum.isTruthy

def failureLine (text : String) : String :=
  if text.isEmpty then "ValueError" else "ValueError: " ++ text

end Record

/-- Which parts a line of data has besides the message and the source. -/
structure LineParts where
  moment : Bool
  level : Bool
  logger : Bool
  context : Bool
  deriving DecidableEq, Repr

def LineParts.all : LineParts := ⟨true, true, true, true⟩

/-- A moment in a line of data; universal time is marked by a letter. -/
def momentText (moment : Timestamp) : String :=
  moment.isoText.replace "+00:00" "Z"

def partWhen (isWritten : Bool) (part : Datum) : Option Datum :=
  if isWritten then some part else none

def textOrNull (text : Option String) : Datum := (text.map Datum.ofText).getD .null

def sourcePart (record : Record) : Datum :=
  .mapping [(.ofText "file", .ofText record.fileName),
    (.ofText "line", .other (.integer record.line)),
    (.ofText "function", textOrNull record.function)]

/-- The parts that a line of data may have, under their names and in their order. -/
def dataFields (parts : LineParts) (moment : Timestamp) (level : List Point)
    (context : List (Datum × Datum)) (message : List Point) (record : Record) :
    List (List Point × Option Datum) :=
  [(Point.ofText "timestamp", partWhen parts.moment (.ofText (momentText moment))),
    (Point.ofText "level", partWhen parts.level (.text level)),
    (Point.ofText "logger", partWhen parts.logger (.text record.logger)),
    (Point.ofText "message", some (.text message)),
    (Point.ofText "context", partWhen (parts.context && !context.isEmpty) (.mapping context)),
    (Point.ofText "data", record.attachment?),
    (Point.ofText "exception", record.failure.map fun text => .ofText (Record.failureLine text)),
    (Point.ofText "source", some (sourcePart record))]

def presentFields (fields : List (List Point × Option Datum)) : List (List Point × Datum) :=
  fields.filterMap fun (name, part) => part.map fun datum => (name, datum)

def dataParts (parts : LineParts) (moment : Timestamp) (level : List Point)
    (context : List (Datum × Datum)) (message : List Point) (record : Record) :
    List (Datum × Datum) :=
  (presentFields (dataFields parts moment level context message record)).map fun (name, datum) =>
    (.text name, datum)

/-- A line of data notation for a level that is given by its name. -/
def dataLineOf (parts : LineParts) (moment : Timestamp) (level : List Point)
    (context : LogContext) (record : Record) : Except Fault String :=
  record.message.text.bind fun message =>
    (if parts.context then context.entries else .ok []).bind fun entries =>
      (Datum.mapping (dataParts parts moment level entries message record)).write

def dataLine (parts : LineParts) (moment : Timestamp) (context : LogContext) (record : Record) :
    Except Fault String :=
  dataLineOf parts moment (Point.ofText (levelName record.level)) context record

def padRight (width : Nat) (text : String) : String :=
  text ++ String.ofList (List.replicate (width - text.length) ' ')

/-- The parts of the context that a line for reading shows. -/
def shownParts (context : LogContext) : Except Fault (List (List Point)) :=
  ([("table", context.table), ("field", context.field), ("statement", context.statement)].filter
    fun part => part.2.isTruthy).mapM fun part =>
      part.2.plain.map fun points => Point.ofText (part.1 ++ "=") ++ points

def bracketed (shown : List (List Point)) : List Point :=
  if shown.isEmpty then []
  else Point.ofText " [" ++ (Point.ofText ", ").intercalate shown ++ Point.ofText "]"

def readableMoment (moment : Timestamp) : String :=
  { moment with offset := none, microsecond := 0 }.textWith " "

def readableLine (moment : Timestamp) (context : LogContext) (record : Record) :
    Except Fault (List Point) :=
  (shownParts context).bind fun shown =>
    record.message.text.bind fun message =>
      (match record.attachment? with
        | some attached => attached.plain.map (Point.ofText " " ++ ·)
        | none => .ok []).map fun attached =>
          let level := padRight 8 (levelName record.level)
          let failure := match record.failure with
            | some text => "\n" ++ Record.failureLine text
            | none => ""
          Point.ofText (readableMoment moment ++ " " ++ level ++ " ") ++ record.logger ++
            bracketed shown ++ Point.ofText ": " ++ message ++ attached ++ Point.ofText failure

inductive LineForm where
  | data
  | readable
  deriving DecidableEq, Repr

inductive LevelChoice where
  | named (name : String)
  | numbered (level : Int)
  deriving DecidableEq, Repr

/-- How the log is set up. -/
structure Configuration where
  level : Int
  form : LineForm
  deriving DecidableEq, Repr

def LevelChoice.number : LevelChoice → Int
  | .named name => levelNumber name
  | .numbered level => level

/-- The setup that is asked for; what is left open is taken from the defaults. -/
def configure (defaults : LoggingDefaults) (level : Option LevelChoice) (asData : Option Bool) :
    Configuration :=
  { level := (level.getD (.named defaults.level)).number
    form := if asData.getD (defaults.format == "json") then .data else .readable }

end Log
end TypedTables
