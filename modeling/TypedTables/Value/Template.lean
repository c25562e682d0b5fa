import TypedTables.Text.Points
import TypedTables.Value.Equality
import TypedTables.Value.Written

/-!
# Templates

A template is a text with conversions, each a percent sign with an optional key, flags, a width,
a precision and a letter. Every conversion takes the next argument, or the argument under its
key, and writes it as the letter says: as a text, as a whole number in some base, or as a number
with a point or an exponent. A number may also be written as the code point it is the number of,
so that a filled template is made of code points.
-/

namespace TypedTables.Template

structure Flags where
  left : Bool
  zero : Bool
  sign : Bool
  blank : Bool
  alternate : Bool

structure Layout where
  flags : Flags
  width : Nat
  precision : Option Nat

/-- What the conversions of a template draw on. -/
structure Arguments where
  positional : List Value
  keyed : Option (List (Value × Value))

def noFlags : Flags := ⟨false, false, false, false, false⟩

def takeFlags : List Char → Flags → Flags × List Char
  | '-' :: rest, flags => takeFlags rest { flags with left := true }
  | '0' :: rest, flags => takeFlags rest { flags with zero := true }
  | '+' :: rest, flags => takeFlags rest { flags with sign := true }
  | ' ' :: rest, flags => takeFlags rest { flags with blank := true }
  | '#' :: rest, flags => takeFlags rest { flags with alternate := true }
  | rest, flags => (flags, rest)

/-- Fills up to the width with blanks, on the left unless the flags say otherwise. -/
def pad {α : Type} (layout : Layout) (blank : α) (body : List α) : List α :=
  let filling := List.replicate (layout.width - body.length) blank
  if layout.flags.left then body ++ filling else filling ++ body

/-- Fills a number up to the width: zeros, where asked for, go between sign and digits. -/
def padNumber (layout : Layout) (negative : Bool) (mark digits : List Char) : List Char :=
  let sign :=
    if negative then ['-'] else if layout.flags.sign then ['+']
    else if layout.flags.blank then [' '] else []
  let used := sign.length + mark.length + digits.length
  if layout.flags.zero && !layout.flags.left then
    sign ++ mark ++ List.replicate (layout.width - used) '0' ++ digits
  else pad layout ' ' (sign ++ mark ++ digits)

/-- The number that a value is, truth values counting as one and zero. -/
def number? (value : Value) : Option Rat :=
  match value.magnitude? with
  | some (.finite number) => some number
  | _ => none

/-- Rounds toward zero. -/
def truncate (number : Rat) : Int := if number < 0 then number.ceil else number.floor

/-- A whole number in a base, with leading zeros up to the precision. -/
def wholeText (layout : Layout) (base : Nat) (mark : List Char) (upper : Bool) (value : Int) :
    List Char :=
  let digits := (Nat.toDigits base value.natAbs).map fun digit =>
    if upper then digit.toUpper else digit
  let filled := List.replicate (layout.precision.getD 0 - digits.length) '0' ++ digits
  padNumber layout (value < 0) (if layout.flags.alternate then mark else []) filled

/-- Rounds a number that is not negative to a count of decimal places, a half to the even
neighbour, and writes it with a point. -/
def fixedDigits (number : Rat) (places : Nat) (alternate : Bool) : List Char :=
  let scaled := Binary64.roundHalfEven (number.num.natAbs * Nat.pow 10 places) number.den
  let digits := Nat.toDigits 10 scaled
  let filled := List.replicate (places + 1 - digits.length) '0' ++ digits
  let whole := filled.take (filled.length - places)
  let fraction := filled.drop (filled.length - places)
  if fraction.isEmpty then if alternate then whole ++ ['.'] else whole
  else whole ++ '.' :: fraction

/-- The leading digits of a positive number, `places` of them after the first, and the exponent
of the first. -/
def leadingDigits (number : Rat) (places : Nat) : List Char × Int :=
  let quotient : Quotient := ⟨number.num.natAbs, number.den⟩
  let exponent := quotient.pointPosition - 1
  let shift : Int := Int.ofNat places - exponent
  let scaled : Nat × Nat :=
    if 0 ≤ shift then (quotient.numerator * Nat.pow 10 shift.toNat, quotient.denominator)
    else (quotient.numerator, quotient.denominator * Nat.pow 10 (-shift).toNat)
  let rounded := Binary64.roundHalfEven scaled.1 scaled.2
  let digits := Nat.toDigits 10 rounded
  if digits.length > places + 1 then (digits.dropLast, exponent + 1) else (digits, exponent)

/-- A number that is not negative with one digit before the point and an exponent. -/
def scientificDigits (number : Rat) (places : Nat) (alternate : Bool) : List Char :=
  let (digits, exponent) :=
    if number = 0 then (List.replicate (places + 1) '0', (0 : Int)) else leadingDigits number places
  let body := match digits with
    | [] => []
    | lead :: [] => if alternate then [lead, '.'] else [lead]
    | lead :: rest => lead :: '.' :: rest
  body ++ plainFloat.exponentText exponent

/-- Drops zeros at the end of a fraction, and the point with them. -/
def dropZeros (digits : List Char) : List Char :=
  if digits.contains '.' then
    let kept := digits.reverse.dropWhile (· == '0')
    (kept.dropWhile (· == '.')).reverse
  else digits

def generalDigits (number : Rat) (precision : Nat) (alternate : Bool) : List Char :=
  let places := precision - 1
  let exponent := if number = 0 then 0 else (leadingDigits number places).2
  if -4 ≤ exponent && exponent < Int.ofNat precision then
    let fixed := fixedDigits number (Int.ofNat places - exponent).toNat alternate
    if alternate then fixed else dropZeros fixed
  else
    let digits := scientificDigits number places alternate
    if alternate then digits
    else
      let mantissa := digits.takeWhile (· != 'e')
      dropZeros mantissa ++ digits.dropWhile (· != 'e')

/-- A number with a point or an exponent, as the letter says. -/
def pointText (layout : Layout) (letter : Char) (value : Value) :
    Except Fault (List Char) :=
  let upper := letter.isUpper
  let raise (digits : List Char) : List Char := if upper then digits.map Char.toUpper else digits
  let unbounded (negative : Bool) (word : String) : List Char :=
    padNumber { layout with flags := { layout.flags with zero := false } } negative []
      (raise word.toList)
  match value with
  | .notANumber _ | .decimal (.notANumber _) => .ok (unbounded false "nan")
  | _ =>
      match value.magnitude? with
      | some (.infinite negative) => .ok (unbounded negative "inf")
      | some (.finite number) =>
          let size := number.abs
          let negative := number < 0 ||
            (match value with
              | .float (.finite sign _ _) => sign
              | _ => false)
          let digits := match letter.toLower with
            | 'f' => fixedDigits size (layout.precision.getD 6) layout.flags.alternate
            | 'e' => scientificDigits size (layout.precision.getD 6) layout.flags.alternate
            | _ => generalDigits size (max 1 (layout.precision.getD 6)) layout.flags.alternate
          .ok (padNumber layout negative [] (raise digits))
      | none => .error (.operand s!"must be real number, not {value.className}")

def asciiOnly (characters : List Char) : List Char :=
  characters.flatMap fun character =>
    if 0x7e < character.toNat then Text.codeEscape character else [character]

def convert (layout : Layout) (letter : Char) (value : Value) (index : Nat) :
    Except Fault (List Point) :=
  let written (characters : List Char) : List Point :=
    pad layout (.character ' ') (Point.ofCharacters (match layout.precision with
      | some limit => characters.take limit
      | none => characters))
  let whole (base : Nat) (mark : List Char) : Except Fault (List Point) :=
    let digits (number : Int) : List Point :=
      Point.ofCharacters (wholeText layout base mark (letter == 'X') number)
    match value with
    | .boolean truth => .ok (digits (if truth then 1 else 0))
    | .integer number => .ok (digits number)
    | _ => .error (.operand s!"%{letter} format: an integer is required, not {value.className}")
  match letter with
  | 's' => value.plain.map fun text => written text.toList
  | 'r' => .ok (written value.shown.toList)
  | 'a' => .ok (written (asciiOnly value.shown.toList))
  | 'd' | 'i' | 'u' =>
      match value, number? value with
      | _, some number => .ok (Point.ofCharacters (wholeText layout 10 [] false (truncate number)))
      | .float _, none => .error (.domain "cannot convert float infinity to integer")
      | .notANumber _, none => .error (.domain "cannot convert float NaN to integer")
      | _, none =>
          .error (.operand
            s!"%{letter} format: a real number is required, not {value.className}")
  | 'x' => whole 16 ['0', 'x']
  | 'X' => whole 16 ['0', 'X']
  | 'o' => whole 8 ['0', 'o']
  | 'c' =>
      match value with
      | .integer code =>
          if 0 ≤ code && code < 0x110000 then
            .ok (pad layout (.character ' ') [Point.ofNat code.toNat])
          else .error (.domain "%c arg not in range(0x110000)")
      | .text text =>
          if text.length = 1 then .ok (pad layout (.character ' ') (Point.ofText text))
          else .error (.operand "%c requires int or char")
      | _ => .error (.operand "%c requires int or char")
  | 'f' | 'F' | 'e' | 'E' | 'g' | 'G' => (pointText layout letter value).map Point.ofCharacters
  | _ =>
      .error (.domain (s!"unsupported format character '{letter}' " ++
        s!"(0x{String.ofList (Nat.toDigits 16 letter.toNat)}) at index {index}"))

/-- Takes a width or precision: digits, or a star for the next argument. -/
def takeCount (characters : List Char) (arguments : List Value) :
    Except Fault (Option Int × List Char × List Value) :=
  match characters with
  | '*' :: rest =>
      match arguments with
      | .integer count :: others => .ok (some count, rest, others)
      | _ :: _ => .error (.operand "* wants int")
      | [] => .error (.operand "not enough arguments for format string")
  | _ =>
      let digits := characters.takeWhile Char.isDigit
      if digits.isEmpty then .ok (none, characters, arguments)
      else .ok (some (Int.ofNat (Decimal.digitsValue digits)),
        characters.dropWhile Char.isDigit, arguments)

def takeKey? (characters : List Char) : Option (List Char × List Char) :=
  match characters with
  | '(' :: rest =>
      match rest.dropWhile (· != ')') with
      | _ :: after => some (rest.takeWhile (· != ')'), after)
      | [] => none
  | _ => none

/-- Takes a key in parentheses, where there is one, and finds the argument under it. -/
def takeKeyed (characters : List Char) (arguments : Arguments) :
    Except Fault (Option Value × List Char) :=
  match characters with
  | '(' :: _ =>
      match takeKey? characters, arguments.keyed with
      | some (key, after), some entries =>
          match Value.find? (.text (String.ofList key)) entries with
          | some value => .ok (some value, after)
          | none => .error (.unknownDefinition (String.ofList key))
      | none, some _ => .error (.domain "incomplete format key")
      | _, none => .error (.operand "format requires a mapping")
  | _ => .ok (none, characters)

def takePrecision (characters : List Char) (arguments : List Value) :
    Except Fault (Option Nat × List Char × List Value) :=
  match characters with
  | '.' :: rest =>
      (takeCount rest arguments).map fun (count, after, others) =>
        (some ((count.getD 0).toNat), after, others)
  | _ => .ok (none, characters, arguments)

/-- Drops a length modifier, which means nothing. -/
def dropModifier (characters : List Char) : List Char :=
  match characters with
  | 'l' :: rest | 'h' :: rest | 'L' :: rest => rest
  | _ => characters

def takeLayout (characters : List Char) (arguments : List Value) :
    Except Fault (Layout × List Char × List Value) :=
  let (flags, afterFlags) := takeFlags characters noFlags
  (takeCount afterFlags arguments).bind fun (width, afterWidth, others) =>
    (takePrecision afterWidth others).map fun (precision, afterPrecision, available) =>
      ({ flags := if width.getD 0 < 0 then { flags with left := true } else flags
         width := (width.getD 0).natAbs
         precision }, dropModifier afterPrecision, available)

/-- Takes the argument of a conversion: the one under its key, the next, or all keyed ones. -/
def takeArgument (keyed : Option Value) (arguments : Arguments) (available : List Value) :
    Except Fault (Value × List Value) :=
  match keyed, available with
  | some value, _ => .ok (value, available)
  | none, value :: others => .ok (value, others)
  | none, [] =>
      match arguments.keyed with
      | some entries => .ok (.mapping entries, [])
      | none => .error (.operand "not enough arguments for format string")

/-- Fills the conversions from the front; `index` counts the characters passed. -/
def fill : Nat → List Char → Nat → Arguments → Except Fault (List Point × Arguments)
  | 0, _, _, _ => .error .tooDeep
  | _ + 1, [], _, arguments => .ok ([], arguments)
  | fuel + 1, '%' :: rest, index, arguments =>
      (takeKeyed rest arguments).bind fun (keyed, afterKey) =>
        (takeLayout afterKey arguments.positional).bind fun (layout, afterLayout, available) =>
          match afterLayout with
          | [] => .error (.domain "incomplete format")
          | letter :: tail =>
              let consumed := (rest.length + 1) - tail.length
              if letter = '%' then
                (fill fuel tail (index + consumed) { arguments with positional := available }).map
                  fun (others, left) => (.character '%' :: others, left)
              else
                (takeArgument keyed arguments available).bind fun (value, remaining) =>
                  (convert layout letter value (index + consumed - 1)).bind fun written =>
                    (fill fuel tail (index + consumed) { arguments with positional := remaining }).map
                      fun (others, left) => (written ++ others, left)
  | fuel + 1, character :: rest, index, arguments =>
      (fill fuel rest (index + 1) arguments).map fun (others, left) =>
        (.character character :: others, left)

/-- Fills a template; every positional argument must be used. -/
def format (template : String) (arguments : Arguments) : Except Fault (List Point) := do
  let characters := template.toList
  let (filled, left) ← fill (characters.length + 1) characters 0 arguments
  if left.positional.isEmpty then return filled
  else .error (.operand "not all arguments converted during string formatting")

end TypedTables.Template
