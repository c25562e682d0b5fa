import TypedTables.Pattern.Source
import TypedTables.Uuid

/-!
# Escapes and sets in written patterns

What a character after a backslash stands for: a control character, a character by its code, a
class, an anchor or an earlier group. And the items of a bracketed set, where anchors and groups
have no place.
-/

namespace TypedTables.PatternReader

/-- Escapes that stand for one control character. -/
def controlEscape? : Char → Option Nat
  | 'a' => some 0x7
  | 'b' => some 0x8
  | 'f' => some 0xc
  | 'n' => some 0xa
  | 'r' => some 0xd
  | 't' => some 0x9
  | 'v' => some 0xb
  | '\x5c' => some 0x5c
  | _ => none

def classEscape? : Char → Option CharacterItem
  | 'd' => some (.inClass .digit)
  | 'D' => some (.outsideClass .digit)
  | 'w' => some (.inClass .word)
  | 'W' => some (.outsideClass .word)
  | 's' => some (.inClass .blank)
  | 'S' => some (.outsideClass .blank)
  | _ => none

def isOctal (character : Char) : Bool := '0' ≤ character && character ≤ '7'

def isHexadecimal (character : Char) : Bool := (Uuid.hexDigit? character).isSome

def octalValue (digits : List Char) : Nat :=
  digits.foldl (fun sum digit => sum * 8 + (digit.toNat - 48)) 0

def decimalValue (digits : List Char) : Nat :=
  digits.foldl (fun sum digit => sum * 10 + (digit.toNat - 48)) 0

/-- The text of an escape whose backslash and first character have been taken. -/
def escapeText (first : Char) (others : List Char) : String :=
  String.ofList ('\x5c' :: first :: others)

/-- Refuses an escape, for a reason that names it. -/
def refuseEscape {α : Type} (complaint : String → PatternComplaint) (escape : String) :
    PatternReader α :=
  refuse (complaint escape) escape.length

def hexadecimalCode (first : Char) (count : Nat) : PatternReader Nat := do
  let digits ← takeWhile isHexadecimal count
  let escape := escapeText first digits
  match Uuid.hexValue? digits with
  | some code =>
      if digits.length < count then refuseEscape .incompleteEscape escape
      else if 0x10ffff < code then refuseEscape .badEscape escape
      else return code
  | none => refuseEscape .incompleteEscape escape

def namedCharacter : PatternReader Nat := do
  if ← takeIf '\x7b' then
    let name ← takeNameTo '\x7d' "character name"
    refuse (.unknownCharacter name) (name.length + 4)
  else refuse .missingBrace 0

/-- An escape that stands for one character, by the rules that hold in and out of sets. -/
def characterEscape (first : Char) : PatternReader Nat := do
  match first with
  | 'x' => hexadecimalCode first 2
  | 'u' => hexadecimalCode first 4
  | 'U' => hexadecimalCode first 8
  | 'N' => namedCharacter
  | _ =>
      if first.isAlphanum then refuseEscape .badEscape (escapeText first [])
      else return first.toNat

/-- A code that octal digits write must fit in one octet. -/
def octalCode (first : Char) (others : List Char) : PatternReader Nat := do
  let code := octalValue (first :: others)
  if 0o377 < code then refuseEscape .octalTooLarge (escapeText first others) else return code

def setEscape (first : Char) : PatternReader CharacterItem := do
  match controlEscape? first, classEscape? first with
  | some code, _ => return .single code
  | none, some item => return item
  | none, none =>
      if isOctal first then
        return .single (← octalCode first (← takeWhile isOctal 2))
      else return .single (← characterEscape first)

def single (options : List PatternOption) (codePoint : Nat) : Pattern :=
  .oneOf ⟨false, [.range codePoint codePoint], options.contains .ignoreCase,
    PatternOption.alphabet options⟩

def reference (options : List PatternOption) (digits : List Char) : PatternReader Pattern := do
  let number := decimalValue digits
  if number < (← groupCount) then
    if !(← isClosed number) then refuse .openGroup (digits.length + 1)
    else
      checkLookbehind number
      return .again number (options.contains .ignoreCase) (PatternOption.alphabet options)
  else refuse (.unknownGroup number) digits.length

/-- An escape that starts with a digit other than zero: three octal digits are a code, one or two
digits refer to a group. -/
def numericEscape (options : List PatternOption) (first : Char) : PatternReader Pattern := do
  match ← takeWhile Char.isDigit 1 with
  | [second] =>
      let third ← if isOctal first && isOctal second then takeWhile isOctal 1 else pure []
      if third.isEmpty then reference options [first, second]
      else return single options (← octalCode first (second :: third))
  | _ => reference options [first]

def escape (options : List PatternOption) (first : Char) : PatternReader Pattern := do
  let alphabet := PatternOption.alphabet options
  match first with
  | 'A' => return .start false
  | 'Z' => return .absoluteFinish
  | 'b' => return .wordEdge false alphabet
  | 'B' => return .wordEdge true alphabet
  | '0' => return single options (octalValue (← takeWhile isOctal 2))
  | _ =>
      match classEscape? first, controlEscape? first with
      | some item, _ => return .oneOf ⟨false, [item], options.contains .ignoreCase, alphabet⟩
      | none, some code => return single options code
      | none, none =>
          if first.isDigit then numericEscape options first
          else return single options (← characterEscape first)

/-- One member of a set, whose first token has been taken. -/
def setMember (token : PatternToken) : PatternReader CharacterItem := do
  match token with
  | .escaped character => setEscape character
  | .plain character => return .single character.toNat
  | .dangling => refuse .danglingBackslash 0

/-- The items of a set up to its closing bracket; a bracket that comes first is an item. -/
def setItems (place : Nat) : Nat → List CharacterItem → PatternReader (List CharacterItem)
  | 0, items => return items
  | fuel + 1, items => do
      let takeMember : PatternReader PatternToken := do
        match ← take with
        | some token => return token
        | none => refuseAt (some place) .unterminatedSet
      let token ← takeMember
      if token = .plain ']' && !items.isEmpty then return items
      else
        let low ← setMember token
        if ← takeIf '-' then
          let upper ← takeMember
          if upper = .plain ']' then return items ++ [low, .single 0x2d]
          else
            let high ← setMember upper
            let bad := PatternComplaint.badRange token.text upper.text
            let offset := token.size + 1 + upper.size
            match low, high with
            | .single first, .single last =>
                if last < first then refuse bad offset
                else setItems place fuel (items ++ [.range first last])
            | _, _ => refuse bad offset
        else setItems place fuel (items ++ [low])

/-- A set whose opening bracket has been taken. -/
def characterSet (options : List PatternOption) : PatternReader Pattern := do
  let place := (← position) - 1
  let negated ← takeIf '^'
  let items := (← setItems place ((← get).rest.length + 1) []).eraseDups
  let plain := match items with
    | [.single codePoint] => [CharacterItem.range codePoint codePoint]
    | _ => items
  return .oneOf ⟨negated, plain, options.contains .ignoreCase, PatternOption.alphabet options⟩

end TypedTables.PatternReader
