import TypedTables.Text.Printing
import TypedTables.Uuid

/-!
# Quoted text

Messages show a text between quotation marks: single ones, or double ones when the text holds a
single mark and no double mark. Backslashes, the mark in use and line ends are escaped, and a
character without a printed form is shown by its code.
-/

namespace TypedTables.Text

def quoteMark (characters : List Char) : Char :=
  if characters.contains '\x27' && !characters.contains '\x22' then '\x22' else '\x27'

/-- The code of a character after the shortest of the three marks that can hold it. -/
def codeEscape (character : Char) : List Char :=
  let code := character.toNat
  if code ≤ 0xff then '\x5c' :: 'x' :: Uuid.hexDigits 2 code
  else if code ≤ 0xffff then '\x5c' :: 'u' :: Uuid.hexDigits 4 code
  else '\x5c' :: 'U' :: Uuid.hexDigits 8 code

def quotedCharacter (mark character : Char) : List Char :=
  if character = mark || character = '\x5c' then ['\x5c', character]
  else if character = '\n' then ['\x5c', 'n']
  else if character = '\r' then ['\x5c', 'r']
  else if character = '\t' then ['\x5c', 't']
  else if isPrinting character then [character]
  else codeEscape character

def quoted (text : String) : String :=
  let characters := text.toList
  let mark := quoteMark characters
  String.ofList (mark :: (characters.flatMap (quotedCharacter mark) ++ [mark]))

example : quoted "it's" = "\"it's\"" := by decide +kernel
example : quoted "a\n\x07" = "'a\\n\\x07'" := by decide +kernel

end TypedTables.Text
