import TypedTables.Text.Points
import TypedTables.Uuid

/-!
# Quoted texts of data notation

A text between double quotation marks, with control characters, quotation marks and backslashes
escaped. In the ASCII style every character beyond printing ASCII is escaped by the code units it
has in 16 bits.
-/

namespace TypedTables.Json

def unitEscape (unit : Nat) : List Char := '\x5c' :: 'u' :: Uuid.hexDigits 4 unit

/-- The 16-bit code units of a character: one, or a pair beyond the first plane. -/
def codeUnits (character : Char) : List Nat :=
  let code := character.toNat
  if code < 0x10000 then [code]
  else [0xd800 + (code - 0x10000) / 0x400, 0xdc00 + (code - 0x10000) % 0x400]

/-- One character between quotation marks. -/
def quotedCharacter (asciiOnly : Bool) (character : Char) : List Char :=
  if character = '\x22' then ['\x5c', '\x22']
  else if character = '\x5c' then ['\x5c', '\x5c']
  else if character = '\n' then ['\x5c', 'n']
  else if character = '\r' then ['\x5c', 'r']
  else if character = '\t' then ['\x5c', 't']
  else if character = '\x0c' then ['\x5c', 'f']
  else if character = '\x08' then ['\x5c', 'b']
  else if character.toNat < 0x20 || (asciiOnly && 0x7e < character.toNat) then
    (codeUnits character).flatMap unitEscape
  else [character]

/-- A text between quotation marks. -/
def quotedCharacters (asciiOnly : Bool) (characters : List Char) : List Char :=
  '\x22' :: (characters.flatMap (quotedCharacter asciiOnly) ++ ['\x22'])

def quoted (asciiOnly : Bool) (text : String) : String :=
  String.ofList (quotedCharacters asciiOnly text.toList)

/-- One code point between quotation marks, in the ASCII style. -/
def quotedPoint : Point → List Char
  | .character character => quotedCharacter true character
  | .half half => unitEscape half.unit

def quotedPoints (points : List Point) : String :=
  String.ofList ('\x22' :: (points.flatMap quotedPoint ++ ['\x22']))

example : quoted true "é\n" = "\"\\u00e9\\n\"" := by decide +kernel

end TypedTables.Json
