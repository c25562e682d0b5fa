import TypedTables.Number.Binary64

/-!
# Decimal numbers

A decimal number keeps the digits it was written with: `1.50` and `1.5` are equal but print
differently. Sums are rounded to 28 digits, a half to the even neighbour.
-/

namespace TypedTables

/-- A decimal number: `±coefficient · 10^exponent`, an infinity, or not a number. -/
inductive Decimal where
  | finite (negative : Bool) (coefficient : Nat) (exponent : Int)
  | infinite (negative : Bool)
  | notANumber (token : Nat)
  deriving DecidableEq, Repr

namespace Decimal

def precision : Nat := 28

/-- The digits of a coefficient with the point put in, or with an exponent when the number is
very small or its digits end before the units. -/
def body (coefficient : Nat) (exponent : Int) : List Char :=
  let digits := Nat.toDigits 10 coefficient
  let before : Int := exponent + Int.ofNat digits.length
  if exponent ≤ 0 && before > -6 then
    if before ≤ 0 then '0' :: '.' :: (List.replicate (-before).toNat '0' ++ digits)
    else if exponent = 0 then digits
    else digits.take before.toNat ++ '.' :: digits.drop before.toNat
  else
    let shown : Int := before - 1
    let mark := 'E' :: (if shown < 0 then '-' else '+') :: Nat.toDigits 10 shown.natAbs
    match digits with
    | lead :: second :: rest => lead :: '.' :: second :: (rest ++ mark)
    | _ => digits ++ mark

def text : Decimal → String
  | .finite negative coefficient exponent =>
      String.ofList ((if negative then ['-'] else []) ++ body coefficient exponent)
  | .infinite negative => (if negative then "-" else "") ++ "Infinity"
  | .notANumber _ => "NaN"

/-- Splits digits from the front of a text. -/
def leadingDigits (characters : List Char) : List Char × List Char :=
  (characters.takeWhile Char.isDigit, characters.dropWhile Char.isDigit)

def digitsValue (digits : List Char) : Nat :=
  digits.foldl (fun value digit => value * 10 + (digit.toNat - '0'.toNat)) 0

/-- Takes a minus or plus sign from the front of a text. -/
def takeSign : List Char → Bool × List Char
  | '-' :: rest => (true, rest)
  | '+' :: rest => (false, rest)
  | rest => (false, rest)

/-- Reads the text of a decimal number; `token` names the result when it is not a number. -/
def ofText? (token : Nat) (text : String) : Option Decimal :=
  let (negative, unsigned) := takeSign text.toList
  match String.ofList unsigned with
  | "Infinity" => some (.infinite negative)
  | "NaN" | "sNaN" => some (.notANumber token)
  | _ =>
      let (whole, afterWhole) := leadingDigits unsigned
      let (fraction, afterFraction) :=
        match afterWhole with
        | '.' :: rest => leadingDigits rest
        | _ => ([], afterWhole)
      if whole.isEmpty && fraction.isEmpty then none
      else
        let finish (exponent : Int) : Option Decimal :=
          some (.finite negative (digitsValue (whole ++ fraction))
            (exponent - Int.ofNat fraction.length))
        match afterFraction with
        | [] => finish 0
        | mark :: rest =>
            if mark == 'E' || mark == 'e' then
              let (negativeExponent, afterSign) := takeSign rest
              match leadingDigits afterSign with
              | (digits@(_ :: _), []) =>
                  let size := Int.ofNat (digitsValue digits)
                  finish (if negativeExponent then -size else size)
              | _ => none
            else none

/-- The exact value of a finite decimal number. -/
def toRat? : Decimal → Option Rat
  | .finite negative coefficient exponent =>
      let magnitude : Rat :=
        if 0 ≤ exponent then ((coefficient * Nat.pow 10 exponent.toNat : Nat) : Rat)
        else mkRat coefficient (Nat.pow 10 (-exponent).toNat)
      some (if negative then -magnitude else magnitude)
  | _ => none

/-- The nearest double-precision number, where there is one. -/
def toBinary64? : Decimal → Option Binary64
  | .finite negative coefficient exponent => some (.ofDecimal negative coefficient exponent)
  | .infinite negative => some (.infinite negative)
  | .notANumber _ => none

/-- The sum of a number with itself, rounded to the precision. -/
def doubled : Decimal → Decimal
  | .finite negative coefficient exponent =>
      let sum := 2 * coefficient
      let excess := (Nat.toDigits 10 sum).length - precision
      if excess = 0 then .finite negative sum exponent
      else
        let rounded := Binary64.roundHalfEven sum (Nat.pow 10 excess)
        if (Nat.toDigits 10 rounded).length > precision then
          .finite negative (rounded / 10) (exponent + Int.ofNat excess + 1)
        else .finite negative rounded (exponent + Int.ofNat excess)
  | other => other

example : (Decimal.finite false 150 (-2)).text = "1.50" := by decide +kernel
example : (Decimal.finite false 1 2).text = "1E+2" := by decide +kernel
example : ofText? 0 "1.50" = some (.finite false 150 (-2)) := by decide +kernel

end Decimal
end TypedTables
