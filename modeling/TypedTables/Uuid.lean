/-!
# Universally unique identifiers

A 128-bit number with a written form of 32 hexadecimal digits in groups of 8, 4, 4, 4 and 12.
Reading also takes the digits without hyphens, in braces, and after `urn:uuid:`.
-/

namespace TypedTables

structure Uuid where
  bits : BitVec 128
  deriving DecidableEq, Repr

namespace Uuid

def hexDigit? (character : Char) : Option Nat :=
  let code := character.toNat
  if 0x30 ≤ code && code ≤ 0x39 then some (code - 0x30)
  else if 0x61 ≤ code && code ≤ 0x66 then some (code - 0x57)
  else if 0x41 ≤ code && code ≤ 0x46 then some (code - 0x37)
  else none

/-- The number that hexadecimal digits denote. -/
def hexValue? (digits : List Char) : Option Nat :=
  digits.foldlM (fun value digit => (hexDigit? digit).map (value * 16 + ·)) 0

/-- The least significant `count` hexadecimal digits of a number. -/
def hexDigits (count value : Nat) : List Char :=
  (List.range count).reverse.map fun place => Nat.digitChar (value / Nat.pow 16 place % 16)

/-- The lower-case text with hyphens. -/
def text (uuid : Uuid) : String :=
  let digits := hexDigits 32 uuid.bits.toNat
  let group (start length : Nat) : List Char := (digits.drop start).take length
  String.ofList (group 0 8 ++ '-' :: group 8 4 ++ '-' :: group 12 4 ++ '-' :: group 16 4 ++
    '-' :: group 20 12)

/-- Digits in five hyphenated groups, without the hyphens. -/
def ungroup? (characters : List Char) : Option (List Char) :=
  let hyphens := [8, 13, 18, 23]
  if characters.length = 36 && hyphens.all (fun place => characters[place]? == some '-') then
    some (characters.take 8 ++ (characters.drop 9).take 4 ++ (characters.drop 14).take 4 ++
      (characters.drop 19).take 4 ++ characters.drop 24)
  else none

/-- The bare digits of any accepted written form. -/
def bareDigits? (characters : List Char) : Option (List Char) :=
  match characters.length with
  | 32 => some characters
  | 36 => ungroup? characters
  | 38 =>
      if characters.head? == some '\x7b' && characters.getLast? == some '\x7d' then
        ungroup? (characters.drop 1).dropLast
      else none
  | 45 =>
      if characters.take 9 == "urn:uuid:".toList then ungroup? (characters.drop 9) else none
  | _ => none

/-- Reads any accepted written form. -/
def ofText? (text : String) : Option Uuid := do
  let digits ← bareDigits? text.toList
  let value ← hexValue? digits
  return ⟨BitVec.ofNat 128 value⟩

/-- The two variant bits mark the layout that carries a version. -/
def hasVersion (uuid : Uuid) : Bool := uuid.bits.toNat / Nat.pow 2 62 % 4 == 2

/-- The version, where the layout carries one. -/
def version? (uuid : Uuid) : Option Nat :=
  if uuid.hasVersion then some (uuid.bits.toNat / Nat.pow 2 76 % 16) else none

/-- All bits clear or all bits set. -/
def isExtreme (uuid : Uuid) : Bool := uuid.bits == 0 || uuid.bits == BitVec.allOnes 128

end Uuid
end TypedTables
