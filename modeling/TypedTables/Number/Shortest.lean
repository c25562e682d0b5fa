import TypedTables.Number.Binary64

/-!
# Shortest decimal digits

The text of a double-precision number uses the fewest decimal digits that still read back as the
same number, and of those the nearest. The search is exact: for one, two, … seventeen digits it
tests the two neighbours of the number on that decimal grid against the interval of reals that
round to the number.
-/

namespace TypedTables

/-- A quotient of natural numbers, as a bound of an interval or a point on a grid. -/
structure Quotient where
  numerator : Nat
  denominator : Nat

namespace Quotient

def le (left right : Quotient) : Bool :=
  left.numerator * right.denominator ≤ right.numerator * left.denominator

def lt (left right : Quotient) : Bool :=
  left.numerator * right.denominator < right.numerator * left.denominator

/-- `digits · 10^exponent`. -/
def ofDecimal (digits : Nat) (exponent : Int) : Quotient :=
  if 0 ≤ exponent then ⟨digits * Nat.pow 10 exponent.toNat, 1⟩
  else ⟨digits, Nat.pow 10 (-exponent).toNat⟩

/-- `significand · 2^exponent`. -/
def ofBinary (significand : Nat) (exponent : Int) : Quotient :=
  if 0 ≤ exponent then ⟨significand * Nat.pow 2 exponent.toNat, 1⟩
  else ⟨significand, Nat.pow 2 (-exponent).toNat⟩

def distance (left right : Quotient) : Quotient :=
  let across := left.numerator * right.denominator
  let back := right.numerator * left.denominator
  ⟨(across - back) + (back - across), left.denominator * right.denominator⟩

/-- The number of digits before the decimal point of a positive quotient; not positive where the
quotient is below one tenth. -/
def pointPosition (quotient : Quotient) : Int :=
  if quotient.denominator ≤ quotient.numerator then
    Int.ofNat (Nat.toDigits 10 (quotient.numerator / quotient.denominator)).length
  else
    let length := (Nat.toDigits 10 (quotient.denominator / quotient.numerator)).length
    if quotient.denominator = quotient.numerator * Nat.pow 10 (length - 1) then 2 - Int.ofNat length
    else 1 - Int.ofNat length

end Quotient

/-- The reals that round to `significand · 2^exponent`; the ends belong to it when the
significand is even. -/
structure RoundingInterval where
  low : Quotient
  high : Quotient
  closed : Bool

namespace RoundingInterval

/-- Half a unit in the last place to each side, and a quarter below a power of two. -/
def around (significand : Nat) (exponent : Int) : RoundingInterval :=
  let narrow := significand == Nat.pow 2 52 && exponent > -1074
  { low := Quotient.ofBinary (4 * significand - (if narrow then 1 else 2)) (exponent - 2)
    high := Quotient.ofBinary (4 * significand + 2) (exponent - 2)
    closed := significand % 2 == 0 }

def holds (interval : RoundingInterval) (point : Quotient) : Bool :=
  if interval.closed then interval.low.le point && point.le interval.high
  else interval.low.lt point && point.lt interval.high

end RoundingInterval

/-- Decimal digits without a trailing zero and the place of the point: the value is
`0.digits · 10^point`. -/
structure DecimalDigits where
  digits : List Char
  point : Int
  deriving Repr

namespace DecimalDigits

/-- Drops the zeros at the end, which carry no value. -/
def ofNat (digits : Nat) (exponent : Int) : DecimalDigits :=
  let written := Nat.toDigits 10 digits
  { digits := (written.reverse.dropWhile (· == '0')).reverse
    point := exponent + Int.ofNat written.length }

/-- The neighbours of the value on the grid of `10^exponent` that read back, nearest first. -/
def candidate? (interval : RoundingInterval) (value : Quotient) (exponent : Int) :
    Option DecimalDigits :=
  let unit := Quotient.ofDecimal 1 exponent
  let below := (value.numerator * unit.denominator) / (value.denominator * unit.numerator)
  let lower := Quotient.ofDecimal below exponent
  let upper := Quotient.ofDecimal (below + 1) exponent
  match interval.holds lower, interval.holds upper with
  | false, false => none
  | true, false => some (ofNat below exponent)
  | false, true => some (ofNat (below + 1) exponent)
  | true, true =>
      let toLower := value.distance lower
      let toUpper := upper.distance value
      if toLower.lt toUpper || (toLower.le toUpper && below % 2 == 0) then
        some (ofNat below exponent)
      else some (ofNat (below + 1) exponent)

/-- The fewest digits that read back as `significand · 2^exponent`, and of those the nearest. -/
def shortest (significand : Nat) (exponent : Int) : DecimalDigits :=
  let value := Quotient.ofBinary significand exponent
  let interval := RoundingInterval.around significand exponent
  let point := value.pointPosition
  let counts := (List.range 17).map fun count => point - 1 - Int.ofNat count
  (counts.findSome? (candidate? interval value)).getD (ofNat significand 0)

end DecimalDigits
end TypedTables
