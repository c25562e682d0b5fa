import TypedTables.Pattern.Basic
import TypedTables.Pattern.Fault

/-!
# The written form of patterns

A written pattern is a list of tokens: single characters, and characters after a backslash. A
reader takes tokens from the front and knows how many characters stand before the next one. A
backslash with nothing after it is refused as soon as it would be next.
-/

namespace TypedTables

/-- A piece of a written pattern that is taken at once. -/
inductive PatternToken where
  | plain (character : Char)
  | escaped (character : Char)
  | dangling
  deriving DecidableEq, Repr

inductive PatternOption where
  | ignoreCase
  | everyLine
  | lineEnds
  | verbose
  | ascii
  | everyScript
  | locale
  | unrepeated
  deriving DecidableEq, Repr

/-- What is known while a pattern is being read. -/
structure PatternSource where
  written : String
  rest : List PatternToken
  position : Nat
  /-- Options that hold for the whole pattern. -/
  options : List PatternOption
  /-- The widths of the groups, the first at the front; an open one has none yet. -/
  groups : List (Option (Nat × Nat))
  names : List (String × Nat)
  /-- Inside a lookbehind, the number of groups that were opened before it. -/
  groupsBefore : Option Nat
  /-- Groups that conditions ask for, with the places where they do. -/
  conditions : List (Nat × Nat)

/-- Reads a part of a pattern, or refuses the whole. -/
abbrev PatternReader := StateT PatternSource (Except PatternFault)

namespace PatternToken

def text : PatternToken → String
  | .plain character => String.ofList [character]
  | .escaped character => String.ofList ['\x5c', character]
  | .dangling => "\\"

def size : PatternToken → Nat
  | .escaped _ => 2
  | _ => 1

def isLetter : PatternToken → Bool
  | .plain character =>
      character != '_' && Text.isWord character && !Text.isDecimalDigit character
  | _ => false

def ofCharacters : List Char → List PatternToken
  | '\x5c' :: character :: rest => .escaped character :: ofCharacters rest
  | ['\x5c'] => [.dangling]
  | character :: rest => .plain character :: ofCharacters rest
  | [] => []

end PatternToken

namespace PatternOption

def ofToken? : PatternToken → Option PatternOption
  | .plain 'i' => some .ignoreCase
  | .plain 'm' => some .everyLine
  | .plain 's' => some .lineEnds
  | .plain 'x' => some .verbose
  | .plain 'a' => some .ascii
  | .plain 'u' => some .everyScript
  | .plain 'L' => some .locale
  | .plain 't' => some .unrepeated
  | _ => none

def isAlphabet : PatternOption → Bool
  | .ascii | .everyScript | .locale => true
  | _ => false

/-- The options inside a part that adds some and removes others. -/
def adjust (options added removed : List PatternOption) : List PatternOption :=
  let kept := if added.any isAlphabet then options.filter (!·.isAlphabet) else options
  (kept ++ added).filter (!removed.contains ·)

def alphabet (options : List PatternOption) : Alphabet :=
  if options.contains .ascii then .ascii else .everyScript

end PatternOption

namespace PatternReader

def refuseAt {α : Type} (place : Option Nat) (complaint : PatternComplaint) :
    PatternReader α := do
  throw ⟨complaint, place, (← get).written⟩

/-- Refuses the pattern at `offset` characters before the next token. -/
def refuse {α : Type} (complaint : PatternComplaint) (offset : Nat) : PatternReader α := do
  refuseAt (some ((← get).position - offset)) complaint

def peek : PatternReader (Option PatternToken) := return (← get).rest.head?

/-- How many characters stand before the next token. -/
def position : PatternReader Nat := return (← get).position

def take : PatternReader (Option PatternToken) := do
  let source ← get
  match source.rest with
  | [] => return none
  | token :: rest =>
      set { source with rest, position := source.position + token.size }
      if rest = [.dangling] then refuse .danglingBackslash 0
      else return some token

def takeSome (complaint : PatternComplaint) : PatternReader PatternToken := do
  match ← take with
  | some token => return token
  | none => refuse complaint 0

/-- Takes the next token if it is the given character. -/
def takeIf (character : Char) : PatternReader Bool := do
  if (← peek) = some (.plain character) then
    let _ ← take
    return true
  else return false

/-- Takes up to `count` characters of a kind. -/
def takeWhile (holds : Char → Bool) : Nat → PatternReader (List Char)
  | 0 => return []
  | count + 1 => do
      match ← peek with
      | some (.plain character) =>
          if holds character then
            let _ ← take
            return character :: (← takeWhile holds count)
          else return []
      | _ => return []

/-- Takes all characters of a kind that come next. -/
def takeAll (holds : Char → Bool) : PatternReader (List Char) := do
  takeWhile holds (← get).rest.length

/-- Takes a name up to its terminator; `what` tells what is missing otherwise. -/
def takeName (terminator : Char) (what : String) : Nat → String → PatternReader String
  | 0, taken => return taken
  | fuel + 1, taken => do
      match ← take with
      | none =>
          if taken.isEmpty then refuse (.missingName what) 0
          else refuse (.unterminatedName (String.ofList [terminator])) taken.length
      | some token =>
          if token = .plain terminator then
            if taken.isEmpty then refuse (.missingName what) 1 else return taken
          else takeName terminator what fuel (taken ++ token.text)

def takeNameTo (terminator : Char) (what : String) : PatternReader String := do
  takeName terminator what ((← get).rest.length + 1) ""

/-- How many groups have been opened, the whole pattern among them. -/
def groupCount : PatternReader Nat := return (← get).groups.length + 1

def groupWidths : PatternReader (Nat → Nat × Nat) := do
  let source ← get
  return fun number => ((source.groups[number - 1]?).join).getD (0, 0)

/-- The group has been opened and closed. -/
def isClosed (number : Nat) : PatternReader Bool := do
  return 0 < number && ((← get).groups[number - 1]?).join.isSome

def openGroup (name : Option String) : PatternReader Nat := do
  let number ← groupCount
  match name with
  | none => modify fun source => { source with groups := source.groups ++ [none] }
  | some name =>
      match (← get).names.lookup name with
      | some earlier => refuse (.repeatedName name number earlier) (name.length + 1)
      | none =>
          modify fun source =>
            { source with
              groups := source.groups ++ [none], names := source.names ++ [(name, number)] }
  return number

def closeGroup (number : Nat) (body : Pattern) : PatternReader Unit := do
  let widths ← groupWidths
  modify fun source =>
    { source with groups := source.groups.set (number - 1) (some (body.width widths)) }

/-- Inside a lookbehind, a reference must be to a group that was closed before it. -/
def checkLookbehind (number : Nat) : PatternReader Unit := do
  match (← get).groupsBefore with
  | none => return ()
  | some limit =>
      if !(← isClosed number) then refuse .openGroup 0
      else if limit ≤ number then refuse .groupOfSameLookbehind 0
      else return ()

end PatternReader
end TypedTables
