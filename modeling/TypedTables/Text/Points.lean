/-!
# Code points

Texts that come from outside hold code points: characters, and halves of characters beyond the first
plane. A half is a 16-bit code unit that has a meaning together with another one only, but nothing
keeps it from standing alone, or a high half from standing before a low one.
-/

namespace TypedTables

/-- A code unit for half of a character; high halves are below low ones. -/
structure Half where
  unit : Nat
  isHalf : 0xd800 ≤ unit ∧ unit < 0xe000
  deriving DecidableEq

inductive Point where
  | character (character : Char)
  | half (half : Half)
  deriving DecidableEq

namespace Point

def ofNat (code : Nat) : Point :=
  if isHalf : 0xd800 ≤ code ∧ code < 0xe000 then .half ⟨code, isHalf⟩
  else .character (Char.ofNat code)

def ofCharacters (characters : List Char) : List Point := characters.map .character

def ofText (text : String) : List Point := ofCharacters text.toList

def character? : Point → Option Char
  | .character letter => some letter
  | .half _ => none

def text? (points : List Point) : Option String := (points.mapM character?).map String.ofList

end Point
end TypedTables
