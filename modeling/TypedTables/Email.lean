import TypedTables.Pattern.Matching

/-!
# E-mail addresses

An address is what a pattern takes from the start of a text to its end: a local part of ASCII
letters, digits and `_ ' + - .` that ends in a character which is neither a dot nor an apostrophe,
an at sign, labels that are each followed by a dot, and two or more letters. The pattern looks ahead
for a dot at the start and for two dots side by side, which no address has. The end of a text comes
before a final line end too.
-/

namespace TypedTables.Email

def written : String :=
  "^(?!\\.)(?!.*\\.\\.)([A-Za-z0-9_\x27+\\-\\.]*)[A-Za-z0-9_+\\-]@" ++
    "([A-Za-z0-9][A-Za-z0-9\\-]*\\.)+[A-Za-z]\x7b2,\x7d$"

def letters : List CharacterItem := [.range 0x41 0x5a, .range 0x61 0x7a]

def alphanumerics : List CharacterItem := letters ++ [.range 0x30 0x39]

def charactersOf (items : List CharacterItem) : CharacterSet := ⟨false, items, false, .everyScript⟩

def oneOf (items : List CharacterItem) : Pattern := .oneOf (charactersOf items)

def exactly (character : Char) : Pattern :=
  oneOf [.range character.toNat character.toNat]

/-- As much of a part as there is, at least so often. -/
def atLeast (least : Nat) (part : Pattern) : Pattern := .repetition .greedy part least none

/-- Two dots, after any characters of the first line. -/
def doubleDot : Pattern :=
  .sequenceOf [atLeast 0 (.oneOf (.wildcard false)), exactly '.', exactly '.']

def localItems : List CharacterItem :=
  alphanumerics ++ [.single 0x5f, .single 0x27, .single 0x2b, .single 0x2d, .single 0x2e]

def localEndItems : List CharacterItem :=
  alphanumerics ++ [.single 0x5f, .single 0x2b, .single 0x2d]

def labelItems : List CharacterItem := alphanumerics ++ [.single 0x2d]

def label : Pattern :=
  .sequenceOf [oneOf alphanumerics, atLeast 0 (oneOf labelItems), exactly '.']

def parts : Pattern :=
  .sequenceOf [.group (some 1) (atLeast 0 (oneOf localItems)), oneOf localEndItems, exactly '@',
    atLeast 1 (.group (some 2) label), atLeast 2 (oneOf letters), .finish false]

def pattern : Pattern :=
  .sequenceOf [.start false, .ahead true (exactly '.'), .ahead true doubleDot, parts]

/-- The characters form an address, with at most one line end after it. -/
def isAddress (characters : List Char) : Bool :=
  (pattern.run characters.toArray (.startingAt 0) some).isSome

example : isAddress "it's+me.x@a-b.example".toList = true := by decide +kernel
example : isAddress "a..b@c.de".toList = false := by decide +kernel

end TypedTables.Email
