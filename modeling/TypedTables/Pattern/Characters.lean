import TypedTables.Text.Casing
import TypedTables.Text.Classes

/-!
# Sets of characters

What a pattern asks of one character: that it belongs to a set of items, or to none of them. A set
may ignore case; then a character counts as every one that differs from it only in case. Classes
and case follow all scripts or the ASCII letters alone.
-/

namespace TypedTables

inductive CharacterClass where
  | digit
  | word
  | blank
  deriving DecidableEq, Repr

/-- The letters that classes and case know. -/
inductive Alphabet where
  | everyScript
  | ascii
  deriving DecidableEq, Repr

inductive CharacterItem where
  | single (codePoint : Nat)
  | range (low high : Nat)
  | inClass (kind : CharacterClass)
  | outsideClass (kind : CharacterClass)
  deriving DecidableEq, Repr

/-- A set of characters: those that some item holds, or those that none holds. -/
structure CharacterSet where
  negated : Bool
  items : List CharacterItem
  ignoreCase : Bool
  alphabet : Alphabet
  deriving DecidableEq, Repr

namespace Alphabet

/-- The code points that count as the given one where case is ignored. -/
def caseFamily (alphabet : Alphabet) (codePoint : Nat) : List Nat :=
  match alphabet with
  | .everyScript => Text.caseFamily codePoint
  | .ascii =>
      let character := Char.ofNat codePoint
      if character.isAlpha then [character.toLower.toNat, character.toUpper.toNat]
      else [codePoint]

def lowerPartner (alphabet : Alphabet) (codePoint : Nat) : Nat :=
  match alphabet with
  | .everyScript => Text.lowerPartner codePoint
  | .ascii => if 0x41 ≤ codePoint && codePoint ≤ 0x5a then codePoint + 32 else codePoint

end Alphabet

namespace CharacterClass

def holds (alphabet : Alphabet) (kind : CharacterClass) (character : Char) : Bool :=
  (alphabet == .everyScript || character.toNat < 0x80) &&
    match alphabet, kind with
    | _, .digit => Text.isDecimalDigit character
    | _, .word => Text.isWord character
    | .everyScript, .blank => Text.isBlank character
    | .ascii, .blank => character == ' ' || (0x9 ≤ character.toNat && character.toNat ≤ 0xd)

end CharacterClass

namespace CharacterSet

/-- The item holds the character. A single code point beyond the basic plane counts only as
itself against a character in lower case. -/
def itemHolds (set : CharacterSet) (character : Char) (item : CharacterItem) : Bool :=
  let family :=
    if set.ignoreCase then set.alphabet.caseFamily character.toNat else [character.toNat]
  match item with
  | .single codePoint =>
      if set.ignoreCase && 0xffff < codePoint then
        set.alphabet.lowerPartner character.toNat == codePoint
      else family.contains codePoint
  | .range low high => family.any fun codePoint => low ≤ codePoint && codePoint ≤ high
  | .inClass kind => kind.holds set.alphabet character
  | .outsideClass kind => !kind.holds set.alphabet character

def holds (set : CharacterSet) (character : Char) : Bool :=
  set.negated != set.items.any (set.itemHolds character)

/-- Every character, or every character but the line end. -/
def wildcard (lineEnds : Bool) : CharacterSet :=
  ⟨true, if lineEnds then [] else [.single 0xa], false, .everyScript⟩

end CharacterSet
end TypedTables
