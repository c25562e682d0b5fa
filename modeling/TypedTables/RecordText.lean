import TypedTables.Fault
import TypedTables.Text.Quoted
import TypedTables.Value.Basic

/-!
# Reading record identifiers

A record identifier is read from `table:identifier`. A table name in backticks may hold a colon.
Backticks or angle marks around the identifier are taken off, and nothing inside them is
unescaped.
-/

namespace TypedTables.RecordText

/-- Takes marks off a text that starts and ends with them. -/
def unmark (opening closing : Char) (characters : List Char) : Option (List Char) :=
  if 2 ≤ characters.length && characters.head? == some opening &&
      characters.getLast? == some closing then
    some (characters.drop 1).dropLast
  else none

def unquoteIdentifier (characters : List Char) : List Char :=
  (unmark '\x60' '\x60' characters <|> unmark '\u27e8' '\u27e9' characters).getD characters

/-- Splits a text with a table in backticks, or at its first colon. -/
def split? : List Char → Option (List Char × List Char)
  | '\x60' :: rest =>
      match rest.dropWhile (· != '\x60') with
      | _ :: ':' :: identifier => some (rest.takeWhile (· != '\x60'), identifier)
      | _ => none
  | characters =>
      match characters.dropWhile (· != ':') with
      | _ :: identifier =>
          let table := characters.takeWhile (· != ':')
          if table.isEmpty then none else some (table, identifier)
      | [] => none

/-- The record of a text; its identifier is a text. -/
def read? (characters : List Char) : Option (List Char × List Char) :=
  (split? characters).map fun (table, identifier) => (table, unquoteIdentifier identifier)

def ofText (text : String) : Except Fault Value :=
  match read? text.toList with
  | some (table, identifier) =>
      .ok (.record (String.ofList table) (.text (String.ofList identifier)))
  | none => .error (.malformedRecordText (Text.quoted text))

end TypedTables.RecordText
