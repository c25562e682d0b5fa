import TypedTables.Number.Shortest
import TypedTables.Text.Casing
import TypedTables.Text.Classes

/-!
# The text of double-precision numbers

Writing: the shortest digits that read back, laid out by a small record that says where
positional writing ends and how an exponent is written. Reading: a sign, digits of any script
with single underscores between them, a point, an exponent, or one of the words for infinity and
for not-a-number; the nearest number is taken.
-/

namespace TypedTables

/-- How a double-precision number is written. -/
structure FloatLayout where
  /-- The least decimal exponent that is written positionally. -/
  leastPositional : Int
  /-- The least decimal exponent above that one that is written with an exponent again. -/
  firstScientific : Int
  /-- The least number of digits of a written exponent. -/
  exponentWidth : Nat
  infinity : String

/-- Positional from `10^-4` to below `10^16`, two exponent digits at least. -/
def plainFloat : FloatLayout := ⟨-4, 16, 2, "inf"⟩

/-- As plain floats, with the word for infinity of data notation. -/
def dataFloat : FloatLayout := { plainFloat with infinity := "Infinity" }

namespace FloatLayout

/-- A written exponent: mark, sign and padded digits. -/
def exponentText (layout : FloatLayout) (exponent : Int) : List Char :=
  let digits := Nat.toDigits 10 exponent.natAbs
  let padding := List.replicate (layout.exponentWidth - digits.length) '0'
  'e' :: (if exponent < 0 then '-' else '+') :: (padding ++ digits)

def scientific (layout : FloatLayout) (decimal : DecimalDigits) : List Char :=
  match decimal.digits with
  | [] => ['0']
  | lead :: [] => lead :: layout.exponentText (decimal.point - 1)
  | lead :: rest => lead :: '.' :: (rest ++ layout.exponentText (decimal.point - 1))

/-- Digits around a point, with at least one digit on each side. -/
def positional (decimal : DecimalDigits) : List Char :=
  if decimal.point ≤ 0 then
    '0' :: '.' :: (List.replicate (-decimal.point).toNat '0' ++ decimal.digits)
  else
    let whole := decimal.digits.take decimal.point.toNat
    let fraction := decimal.digits.drop decimal.point.toNat
    whole ++ List.replicate (decimal.point.toNat - whole.length) '0' ++ '.' ::
      (if fraction.isEmpty then ['0'] else fraction)

def write (layout : FloatLayout) : Binary64 → String
  | .infinite negative => (if negative then "-" else "") ++ layout.infinity
  | .finite negative significand exponent =>
      let body :=
        if significand = 0 then ['0', '.', '0']
        else
          let decimal := DecimalDigits.shortest significand exponent
          if layout.leastPositional ≤ decimal.point - 1 &&
              decimal.point - 1 < layout.firstScientific then positional decimal
          else layout.scientific decimal
      String.ofList (if negative then '-' :: body else body)

end FloatLayout

inductive FloatReading where
  | number (value : Binary64)
  | notANumber

namespace FloatReading

/-- Digits with single underscores between them; the value and count of the digits read, and the
rest of the text. -/
def digitRun : List Char → Nat → Nat → Nat × Nat × List Char
  | [], value, count => (value, count, [])
  | character :: rest, value, count =>
      match Text.decimalDigitValue? character with
      | some digit => digitRun rest (value * 10 + digit) (count + 1)
      | none =>
          match character, rest with
          | '_', next :: _ =>
              if 0 < count && (Text.decimalDigitValue? next).isSome then
                digitRun rest value count
              else (value, count, character :: rest)
          | _, _ => (value, count, character :: rest)

/-- Takes a sign from the front of a text; a missing sign is positive. -/
def takeSign : List Char → Bool × List Char
  | '-' :: rest => (true, rest)
  | '+' :: rest => (false, rest)
  | rest => (false, rest)

/-- The exponent part at the end of a number text; a missing part is zero. -/
def exponentPart? : List Char → Option Int
  | [] => some 0
  | mark :: rest =>
      if mark == 'e' || mark == 'E' then
        let (negative, afterSign) := takeSign rest
        match digitRun afterSign 0 0 with
        | (value, count, []) =>
            if count = 0 then none else some (if negative then -Int.ofNat value else Int.ofNat value)
        | _ => none
      else none

/-- Whole digits, an optional fraction and an optional exponent, with at least one digit before
the exponent. -/
def ofUnsigned? (negative : Bool) (characters : List Char) : Option Binary64 :=
  let (whole, wholeCount, afterWhole) := digitRun characters 0 0
  let (digits, fractionCount, afterFraction) :=
    match afterWhole with
    | '.' :: rest =>
        let (fraction, count, tail) := digitRun rest 0 0
        (whole * Nat.pow 10 count + fraction, count, tail)
    | _ => (whole, 0, afterWhole)
  if wholeCount + fractionCount = 0 then none
  else
    (exponentPart? afterFraction).map fun exponent =>
      Binary64.ofDecimal negative digits (exponent - Int.ofNat fractionCount)

/-- Reads a number text, blanks around it allowed. -/
def ofText? (text : String) : Option FloatReading :=
  let (negative, body) := takeSign (Text.trimBlanks text.toList)
  match Text.asciiLower (String.ofList body) with
  | "inf" | "infinity" => some (.number (.infinite negative))
  | "nan" => some .notANumber
  | _ => (ofUnsigned? negative body).map .number

end FloatReading

example : plainFloat.write (.ofDecimal false 15 (-1)) = "1.5" := by decide +kernel
example : plainFloat.write (.ofDecimal true 1 16) = "-1e+16" := by decide +kernel
example : plainFloat.write (.ofDecimal false 1 (-5)) = "1e-05" := by decide +kernel

end TypedTables
