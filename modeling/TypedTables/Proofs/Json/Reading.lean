import TypedTables.Log.Datum

/-!
# Reading data notation

A reader takes what it can from the front of a text and gives what remains. Blanks may stand around
every part. A quoted text holds characters and escapes; an escape by number is a 16-bit code unit, and
one for a high half followed by one for a low half is the character that they are the halves of.
Numbers with a fraction or an exponent are double-precision numbers. Of several items under one name
in an object the last one counts.
-/

namespace TypedTables.Json

def isBlank (character : Char) : Bool := [' ', '\t', '\n', '\r'].contains character

def skipBlanks (characters : List Char) : List Char := characters.dropWhile isBlank

inductive Piece where
  | character (character : Char)
  | unit (unit : Nat)

/-- The characters with an escape of their own, by what stands after the backslash. -/
def namedEscapes : List (Char × Char) :=
  [('\x22', '\x22'), ('\x5c', '\x5c'), ('/', '/'), ('b', '\x08'), ('f', '\x0c'), ('n', '\n'),
    ('r', '\r'), ('t', '\t')]

/-- The pieces before the quotation mark that ends the text. Control characters must be escaped. -/
def readPieces? : List Char → Option (List Piece × List Char)
  | [] => none
  | '\x22' :: rest => some ([], rest)
  | '\x5c' :: 'u' :: first :: second :: third :: fourth :: rest =>
      (Uuid.hexValue? [first, second, third, fourth]).bind fun unit =>
        (readPieces? rest).map fun (pieces, remaining) => (.unit unit :: pieces, remaining)
  | '\x5c' :: mark :: rest =>
      (namedEscapes.lookup mark).bind fun character =>
        (readPieces? rest).map fun (pieces, remaining) =>
          (.character character :: pieces, remaining)
  | character :: rest =>
      if character.toNat < 0x20 then none
      else
        (readPieces? rest).map fun (pieces, remaining) =>
          (.character character :: pieces, remaining)

def isHighHalf (unit : Nat) : Bool := 0xd800 ≤ unit && unit < 0xdc00

def isLowHalf (unit : Nat) : Bool := 0xdc00 ≤ unit && unit < 0xe000

def joinHalves (high low : Nat) : Char :=
  Char.ofNat (0x10000 + (high - 0xd800) * 0x400 + (low - 0xdc00))

/-- The code points of the pieces; two halves of a character that are both escaped are joined. -/
def joined : List Piece → List Point
  | [] => []
  | .character character :: rest => .character character :: joined rest
  | .unit unit :: rest =>
      match rest with
      | .unit low :: more =>
          if isHighHalf unit && isLowHalf low then
            .character (joinHalves unit low) :: joined more
          else Point.ofNat unit :: joined (.unit low :: more)
      | others => Point.ofNat unit :: joined others

/-- A text whose opening quotation mark has been taken. -/
def readText? (characters : List Char) : Option (List Point × List Char) :=
  (readPieces? characters).map fun (pieces, rest) => (joined pieces, rest)

def isWhole : List Char → Bool
  | [] => false
  | [_] => true
  | first :: _ => first != '0'

/-- The digits after a point; without a point there are none. -/
def readFraction? : List Char → Option (List Char × List Char)
  | '.' :: rest =>
      let (digits, remaining) := Decimal.leadingDigits rest
      if digits.isEmpty then none else some (digits, remaining)
  | rest => some ([], rest)

def readExponent? : List Char → Option (Option Int × List Char)
  | [] => some (none, [])
  | mark :: rest =>
      if mark == 'e' || mark == 'E' then
        let (negative, unsigned) := Decimal.takeSign rest
        let (digits, remaining) := Decimal.leadingDigits unsigned
        let size := Int.ofNat (Decimal.digitsValue digits)
        if digits.isEmpty then none else some (some (if negative then -size else size), remaining)
      else some (none, mark :: rest)

/-- The number of its parts: a whole number where there is neither fraction nor exponent. -/
def numberOf (negative : Bool) (whole fraction : List Char) (exponent : Option Int) : Value :=
  if fraction.isEmpty && exponent.isNone then
    let size := Int.ofNat (Decimal.digitsValue whole)
    .integer (if negative then -size else size)
  else
    .float (.ofDecimal negative (Decimal.digitsValue (whole ++ fraction))
      (exponent.getD 0 - Int.ofNat fraction.length))

def readUnsigned? (negative : Bool) (characters : List Char) : Option (Datum × List Char) :=
  let (whole, afterWhole) := Decimal.leadingDigits characters
  if isWhole whole then
    (readFraction? afterWhole).bind fun (fraction, afterFraction) =>
      (readExponent? afterFraction).map fun (exponent, rest) =>
        (.other (numberOf negative whole fraction exponent), rest)
  else none

def readNumber? : List Char → Option (Datum × List Char)
  | '-' :: rest => readUnsigned? true rest
  | characters => readUnsigned? false characters

def words : List (List Char × Value) :=
  [(['n', 'u', 'l', 'l'], .null), (['t', 'r', 'u', 'e'], .boolean true),
    (['f', 'a', 'l', 's', 'e'], .boolean false)]

def readWord? (characters : List Char) : Option (Datum × List Char) :=
  words.findSome? fun (word, value) =>
    if word.isPrefixOf characters then some (.other value, characters.drop word.length) else none

/-- What stands after an item: the end of its container, or a comma and another item. -/
inductive Following where
  | closed (rest : List Char)
  | item (rest : List Char)

def following? (closing : Char) (characters : List Char) : Option Following :=
  match skipBlanks characters with
  | [] => none
  | character :: rest =>
      if character = closing then some (.closed rest)
      else if character = ',' then some (.item (skipBlanks rest))
      else none

/-- One item or more with commas between them, and the mark that ends their container. -/
def readItems? {α : Type} (readItem? : List Char → Option (α × List Char)) (closing : Char) :
    Nat → List Char → Option (List α × List Char)
  | 0, _ => none
  | fuel + 1, characters =>
      (readItem? characters).bind fun (item, afterItem) =>
        (following? closing afterItem).bind fun next =>
          match next with
          | .closed rest => some ([item], rest)
          | .item more =>
              (readItems? readItem? closing fuel more).map fun (items, rest) =>
                (item :: items, rest)

/-- What is between the marks of a container. No item is empty, so there are fewer items than
characters. -/
def readContents? {α : Type} (readItem? : List Char → Option (α × List Char)) (closing : Char)
    (characters : List Char) : Option (List α × List Char) :=
  match skipBlanks characters with
  | [] => none
  | first :: rest =>
      if first = closing then some ([], rest)
      else readItems? readItem? closing (first :: rest).length (first :: rest)

/-- A name of an object, the colon after it and its item. -/
def readNamed? (readItem? : List Char → Option (Datum × List Char)) :
    List Char → Option ((List Point × Datum) × List Char)
  | '\x22' :: rest =>
      (readText? rest).bind fun (name, afterName) =>
        match skipBlanks afterName with
        | ':' :: afterColon =>
            (readItem? (skipBlanks afterColon)).map fun (item, remaining) =>
              ((name, item), remaining)
        | _ => none
  | _ => none

def mappingOf (entries : List (List Point × Datum)) : Datum :=
  .mapping (entries.foldl (fun kept entry => Datum.put (.text entry.1) entry.2 kept) [])

/-- A datum with containers at most `depth` deep. -/
def readDatum? : Nat → List Char → Option (Datum × List Char)
  | 0, _ => none
  | _ + 1, [] => none
  | depth + 1, first :: rest =>
      if first = '\x22' then (readText? rest).map fun (points, remaining) => (.text points, remaining)
      else if first = '[' then
        (readContents? (readDatum? depth) ']' rest).map fun (items, remaining) =>
          (.list items, remaining)
      else if first = '\x7b' then
        (readContents? (readNamed? (readDatum? depth)) '\x7d' rest).map
          fun (entries, remaining) => (mappingOf entries, remaining)
      else if first.isDigit || first = '-' then readNumber? (first :: rest)
      else readWord? (first :: rest)

/-- The datum of a text that holds one datum and blanks. A text is never deeper than long. -/
def decode? (text : String) : Option Datum :=
  let characters := skipBlanks text.toList
  (readDatum? characters.length characters).bind fun (datum, rest) =>
    if rest.all isBlank then some datum else none

/-- The value at the front of a text, and what remains. Texts of values hold characters only. -/
def readFront? (characters : List Char) : Option (Value × List Char) :=
  (readDatum? characters.length characters).bind fun (datum, rest) =>
    datum.value?.map fun value => (value, rest)

end TypedTables.Json
