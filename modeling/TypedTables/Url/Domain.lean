import TypedTables.Text.Composition
import TypedTables.Url.Domain.Direction
import TypedTables.Url.Domain.Joining
import TypedTables.Url.Domain.Mapping
import TypedTables.Url.Punycode

/-!
# Domains

A domain is a list of labels. Its characters are replaced and composed first. A label beyond ASCII
is written in ASCII after a mark of four characters, and a label with that mark must stand for one
that could have been written so. Some ASCII characters may not be used, a label does not begin with
a mark, joiners stand where they may, and the labels can be told apart when they are read.
-/

namespace TypedTables.Domain

structure Label where
  codePoints : List Nat
  written : List Char
  deriving DecidableEq, Repr

/-- The ASCII characters that no domain may hold. -/
def isForbidden (codePoint : Nat) : Bool :=
  codePoint ≤ 0x20 || codePoint = 0x7f ||
    ['%', '#', '/', ':', '<', '>', '?', '@', '[', '\x5c', ']', '^', '|'].any fun character =>
      character.toNat = codePoint

/-- Starts a label that stands for one beyond ASCII. -/
def encodingMark : List Char := ['x', 'n', '-', '-']

def longestEncoded : Nat := 1000

/-- The most characters after the mark of a label that stands for another. -/
def longestDecoded : Nat := 2000

def isAscii (codePoint : Nat) : Bool := codePoint < 0x80

namespace Label

/-- The label may be read as it is. -/
def isSound (codePoints : List Nat) : Bool :=
  !codePoints.any isForbidden && !codePoints.head?.any Text.isMark && joinersFit [] codePoints

/-- The label is what replacing and composing make of it. -/
def isStable (codePoints : List Nat) : Bool :=
  (replaceAll? codePoints).map Text.composed == some codePoints

/-- A label with the mark, which must stand for a sound one beyond ASCII. -/
def ofEncoded? (characters : List Char) : Option Label := do
  let encoded := characters.drop encodingMark.length
  let codePoints := (← Punycode.decode? encoded).map Char.toNat
  if encoded.length ≤ longestDecoded && !codePoints.all isAscii && isStable codePoints &&
      isSound codePoints then
    return ⟨codePoints, characters⟩
  else none

/-- A label whose characters have been replaced and composed. -/
def ofCodePoints? (codePoints : List Nat) : Option Label :=
  let characters := codePoints.map Char.ofNat
  if encodingMark.isPrefixOf characters then
    if codePoints.all isAscii then ofEncoded? characters else none
  else if !isSound codePoints then none
  else if codePoints.all isAscii then some ⟨codePoints, characters⟩
  else if codePoints.length ≤ longestEncoded then
    some ⟨codePoints, encodingMark ++ Punycode.encode characters⟩
  else none

end Label

def asciiForm? (characters : List Char) : Option (List Char) := do
  let codePoints := Text.composed (← replaceAll? (characters.map Char.toNat))
  let parts := Text.splitAt '.' (codePoints.map Char.ofNat)
  let labels ← parts.mapM fun part => Label.ofCodePoints? (part.map Char.toNat)
  if isReadable (labels.map Label.codePoints) then
    return ((labels.map Label.written).intersperse ['.']).flatten
  else none

end TypedTables.Domain
