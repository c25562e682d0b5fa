/-!
# Identifiers

A name that is one word of ASCII letters, digits and underscores, not starting with a digit, is
written as it is, also with one line end after it. Any other name is written between backticks,
with a backslash before every backtick and backslash in it. A field path joins names with dots;
the wildcard segment stands for itself.
-/

namespace TypedTables.Identifier

def isStart (character : Char) : Bool := character.isAlpha || character == '_'

/-- A letter, digit or underscore. -/
def isPart (character : Char) : Bool := character.isAlphanum || character == '_'

def isWord : List Char → Bool
  | first :: rest => isStart first && rest.all isPart
  | [] => false

/-- One word, with at most one line end after it. -/
def isPlain (name : List Char) : Bool :=
  isWord name || (name.getLast? == some '\n' && isWord name.dropLast)

/-- Puts a backslash before every backtick and backslash. -/
def escapeBody : List Char → List Char
  | [] => []
  | character :: rest =>
      if character = '\x60' || character = '\x5c' then '\x5c' :: character :: escapeBody rest
      else character :: escapeBody rest

/-- Removes the backslash of each escaped character. -/
def unescapeBody : List Char → List Char
  | '\x5c' :: character :: rest => character :: unescapeBody rest
  | character :: rest => character :: unescapeBody rest
  | [] => []

theorem unescapeBody_escapeBody (name : List Char) :
    unescapeBody (escapeBody name) = name := by
  induction name with
  | nil => rfl
  | cons character rest ih =>
      by_cases backslash : character = '\x5c'
      · simp [escapeBody, backslash, unescapeBody, ih]
      · by_cases backtick : character = '\x60'
        · simp [escapeBody, backtick, unescapeBody, ih]
        · simp [escapeBody, backtick, backslash, unescapeBody, ih]

def escape (name : List Char) : List Char :=
  if isPlain name then name else '\x60' :: (escapeBody name ++ ['\x60'])

def escapeText (name : String) : String := String.ofList (escape name.toList)

def segment (name : String) : String := if name = "*" then "*" else escapeText name

def fieldPath (segments : List String) : String := ".".intercalate (segments.map segment)

example : escape ['a', '\x60'] = ['\x60', 'a', '\x5c', '\x60', '\x60'] := by decide
example : fieldPath ["a b", "*", "c"] = "\x60a b\x60.*.c" := by decide +kernel

end TypedTables.Identifier
