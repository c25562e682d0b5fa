import TypedTables.Text.Points
import TypedTables.Value.Equality
import TypedTables.Value.Written

/-!
# Log data

Contexts of the log and entries of its records hold data: texts of code points, lists and mappings
of data, and every other value as it is. A datum that holds records is handed out with each of them
unfolded into a mapping of its table and its identifier; data that cannot be copied cannot be handed
out. In a line for reading a datum stands as inside messages, in a line of data as data notation.
-/

namespace TypedTables

inductive Datum where
  | text (points : List Point)
  | list (items : List Datum)
  | mapping (entries : List (Datum × Datum))
  | other (value : Value)

namespace Datum

def null : Datum := .other .null

def ofText (text : String) : Datum := .text (Point.ofText text)

mutual

def ofValue : Value → Datum
  | .text characters => ofText characters
  | .list items => .list (ofValues items)
  | .mapping entries => .mapping (ofEntries entries)
  | value => .other value

def ofValues : List Value → List Datum
  | [] => []
  | item :: rest => ofValue item :: ofValues rest

def ofEntries : List (Value × Value) → List (Datum × Datum)
  | [] => []
  | (key, item) :: rest => (ofValue key, ofValue item) :: ofEntries rest

end

mutual

/-- The value that a datum is, if its texts hold characters only. -/
def value? : Datum → Option Value
  | .text points => (Point.text? points).map .text
  | .list items => (values? items).map .list
  | .mapping entries => (valueEntries? entries).map .mapping
  | .other value => some value

def values? : List Datum → Option (List Value)
  | [] => some []
  | item :: rest =>
      (value? item).bind fun first => (values? rest).map fun others => first :: others

def valueEntries? : List (Datum × Datum) → Option (List (Value × Value))
  | [] => some []
  | (key, item) :: rest =>
      (value? key).bind fun keyValue =>
        (value? item).bind fun itemValue =>
          (valueEntries? rest).map fun others => (keyValue, itemValue) :: others

end

def isNull : Datum → Bool
  | .other value => value.isNull
  | _ => false

def isTruthy : Datum → Bool
  | .text points => !points.isEmpty
  | .list items => !items.isEmpty
  | .mapping entries => !entries.isEmpty
  | .other value => value.isTruthy

def className : Datum → String
  | .text _ => "str"
  | .list _ => "list"
  | .mapping _ => "dict"
  | .other value => value.className

def entries? : Datum → Option (List (Datum × Datum))
  | .mapping entries => some entries
  | .other value => value.entries?.map ofEntries
  | _ => none

/-- Equality of keys; lists and mappings are none. -/
def alike : Datum → Datum → Bool
  | .text points, .text others => points == others
  | .other first, .other second => first.alike second
  | _, _ => false

theorem alike_text_iff (points : List Point) (key : Datum) :
    alike (.text points) key = true ↔ key = .text points := by
  cases key with
  | text others => rw [alike, beq_iff_eq, text.injEq, eq_comm]
  | _ => simp [alike]

theorem alike_to_text_iff (key : Datum) (points : List Point) :
    alike key (.text points) = true ↔ key = .text points := by
  cases key with
  | text others => rw [alike, beq_iff_eq, text.injEq]
  | _ => simp [alike]

def find? (key : Datum) (entries : List (Datum × Datum)) : Option Datum :=
  (entries.find? fun entry => alike key entry.1).map Prod.snd

def hasKey (key : Datum) (entries : List (Datum × Datum)) : Bool :=
  entries.any fun entry => alike key entry.1

/-- Puts an item under a key: an alike key keeps its place and its first form. -/
def put (key item : Datum) : List (Datum × Datum) → List (Datum × Datum)
  | [] => [(key, item)]
  | (present, old) :: rest =>
      if alike key present then (present, item) :: rest else (present, old) :: put key item rest

/-- Puts entries after others; a key that is there keeps its place. -/
def putAll (entries added : List (Datum × Datum)) : List (Datum × Datum) :=
  added.foldl (fun kept entry => put entry.1 entry.2 kept) entries

def unhashableClass? : Datum → Option String
  | .text _ => none
  | .list _ => some "list"
  | .mapping _ => some "dict"
  | .other value => value.unhashableClass?

/-- A mapping of unfolded entries; each key must still be able to be one. -/
def mappingOf (entries : List (Datum × Datum)) : Except Fault Datum :=
  match entries.findSome? fun entry => unhashableClass? entry.1 with
  | some className => .error (.unhashable className)
  | none => .ok (.mapping (putAll [] entries))

end Datum

namespace Value

/-- A mapping of unfolded entries, as it stands inside a tuple. -/
def mappingOf (entries : List (Value × Value)) : Except Fault Value :=
  match unhashableClass?.firstUnhashable? (entries.map Prod.fst) with
  | some className => .error (.unhashable className)
  | none => .ok (.mapping (entries.foldl (fun kept entry => put entry.1 entry.2 kept) []))

/-- The refusal to copy a value. -/
def uncopyable (className : String) : Fault := .operand s!"cannot pickle '{className}' object"

mutual

/-- A value with the records in it unfolded. -/
def unfolded : Value → Except Fault Value
  | .record table identifier =>
      (unfolded identifier).map fun inner =>
        .mapping [(.text "table", .text table), (.text "id", inner)]
  | .list items => (unfoldedItems items).map .list
  | .tuple items => (unfoldedItems items).map .tuple
  | .mapping entries => (unfoldedEntries entries).bind mappingOf
  | .frozenMapping _ => .error (uncopyable "mappingproxy")
  | .awaitable .. => .error (uncopyable "coroutine")
  | value => .ok value

def unfoldedItems : List Value → Except Fault (List Value)
  | [] => .ok []
  | item :: rest =>
      (unfolded item).bind fun first =>
        (unfoldedItems rest).map fun others => first :: others

def unfoldedEntries : List (Value × Value) → Except Fault (List (Value × Value))
  | [] => .ok []
  | (key, item) :: rest =>
      (unfolded key).bind fun newKey =>
        (unfolded item).bind fun newItem =>
          (unfoldedEntries rest).map fun others => (newKey, newItem) :: others

end
end Value

namespace Datum

mutual

def unfolded : Datum → Except Fault Datum
  | .text points => .ok (.text points)
  | .list items => (unfoldedItems items).map .list
  | .mapping entries => (unfoldedEntries entries).bind mappingOf
  | .other value => value.unfolded.map ofValue

def unfoldedItems : List Datum → Except Fault (List Datum)
  | [] => .ok []
  | item :: rest =>
      (unfolded item).bind fun first =>
        (unfoldedItems rest).map fun others => first :: others

def unfoldedEntries : List (Datum × Datum) → Except Fault (List (Datum × Datum))
  | [] => .ok []
  | (key, item) :: rest =>
      (unfolded key).bind fun newKey =>
        (unfolded item).bind fun newItem =>
          (unfoldedEntries rest).map fun others => (newKey, newItem) :: others

end

/-- A text between quotation marks, as inside messages; halves are shown by their units. -/
def shownText (points : List Point) : String :=
  let mark := Text.quoteMark (points.filterMap Point.character?)
  String.ofList (mark :: (points.flatMap (fun point => match point with
    | .character character => Text.quotedCharacter mark character
    | .half half => Json.unitEscape half.unit) ++ [mark]))

mutual

/-- The form of a datum inside messages. -/
def shown : Datum → String
  | .text points => shownText points
  | .list items => s!"[{Value.joinShown (shownItems items)}]"
  | .mapping entries => "\x7b" ++ Value.joinShown (shownEntries entries) ++ "\x7d"
  | .other value => value.shown

def shownItems : List Datum → List String
  | [] => []
  | item :: rest => shown item :: shownItems rest

def shownEntries : List (Datum × Datum) → List String
  | [] => []
  | (key, item) :: rest => s!"{shown key}: {shown item}" :: shownEntries rest

end

/-- A datum on its own. -/
def plain : Datum → Except Fault (List Point)
  | .text points => .ok points
  | .other value => value.plain.map Point.ofText
  | datum => .ok (Point.ofText datum.shown)

def keyText : Datum → Except Fault (List Point)
  | .text points => .ok points
  | .other value => (Written.keyText value).map Point.ofText
  | datum => .error (.unusableKey datum.className)

mutual

/-- A datum in data notation, as lines of the log have it. -/
def write : Datum → Except Fault String
  | .text points => .ok (Json.quotedPoints points)
  | .list items => (writeItems items).map Written.arrayText
  | .mapping entries => (writeEntries entries).map Written.objectText
  | .other value => Written.write .log value

def writeItems : List Datum → Except Fault (List String)
  | [] => .ok []
  | item :: rest =>
      (write item).bind fun first => (writeItems rest).map fun others => first :: others

def writeEntries : List (Datum × Datum) → Except Fault (List String)
  | [] => .ok []
  | (key, item) :: rest =>
      (keyText key).bind fun keyWritten =>
        (write item).bind fun itemWritten =>
          (writeEntries rest).map fun others =>
            s!"{Json.quotedPoints keyWritten}: {itemWritten}" :: others

end
end Datum
end TypedTables
