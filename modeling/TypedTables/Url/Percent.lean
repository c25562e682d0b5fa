import TypedTables.Uuid

/-!
# Percent encoding

A character that may not stand in a part of a locator is written as its octets, each a percent
sign with two hexadecimal digits. Every part has its own set of characters to encode; control
characters and everything beyond ASCII are encoded in all of them.
-/

namespace TypedTables.Percent

/-- The parts of a locator that differ in what they encode. -/
inductive Part where
  | opaquePart
  | fragment
  | query
  | specialQuery
  | path
  | userinfo
  deriving DecidableEq

/-- Printing ASCII characters that a part encodes. -/
def encodedIn : Part → List Char
  | .opaquePart => []
  | .fragment => [' ', '\x22', '<', '>', '\x60']
  | .query => [' ', '\x22', '#', '<', '>']
  | .specialQuery => [' ', '\x22', '#', '<', '>', '\x27']
  | .path => [' ', '\x22', '<', '>', '\x60', '#', '?', '\x7b', '\x7d']
  | .userinfo =>
      [' ', '\x22', '<', '>', '\x60', '#', '?', '\x7b', '\x7d', '/', ':', ';', '=', '@', '[',
        '\x5c', ']', '^', '|']

/-- The upper-case hexadecimal digit of a small number. -/
def hexDigit (value : Nat) : Char := (Nat.digitChar value).toUpper

def octetText (octet : UInt8) : List Char :=
  ['%', hexDigit (octet.toNat / 16), hexDigit (octet.toNat % 16)]

def characterText (character : Char) : List Char :=
  (String.ofList [character]).toUTF8.toList.flatMap octetText

def mustEncode (part : Part) (character : Char) : Bool :=
  character.toNat < 0x20 || 0x7e < character.toNat || (encodedIn part).contains character

def encode (part : Part) (characters : List Char) : List Char :=
  characters.flatMap fun character =>
    if mustEncode part character then characterText character else [character]

/-- The octets of a text whose percent signs with two hexadecimal digits stand for one octet
each. -/
def decodeOctets : List Char → List UInt8
  | '%' :: high :: low :: rest =>
      match Uuid.hexDigit? high, Uuid.hexDigit? low with
      | some highValue, some lowValue =>
          UInt8.ofNat (highValue * 16 + lowValue) :: decodeOctets rest
      | _, _ => 0x25 :: decodeOctets (high :: low :: rest)
  | character :: rest => (String.ofList [character]).toUTF8.toList ++ decodeOctets rest
  | [] => []

/-- Decodes percent signs; octets that are not a text are refused. -/
def decode? (characters : List Char) : Option (List Char) :=
  (String.fromUTF8? (ByteArray.mk (decodeOctets characters).toArray)).map String.toList

end TypedTables.Percent
