/-!
# Double-precision numbers

A double-precision number is a signed significand times a power of two, or an infinity. It is
kept as exact data, so that comparison, rounding and printing are integer arithmetic. Values that
are not a number are kept apart, where values are defined, because they are never equal to
anything.
-/

namespace TypedTables

/-- A double-precision number: `±significand · 2^exponent`, or an infinity. -/
inductive Binary64 where
  | finite (negative : Bool) (significand : Nat) (exponent : Int)
  | infinite (negative : Bool)
  deriving DecidableEq, Repr

namespace Binary64

def zero : Binary64 := .finite false 0 (-1074)

/-- `numerator / denominator` in units of `2^exponent`, as a quotient of natural numbers. -/
def inUnits (numerator denominator : Nat) (exponent : Int) : Nat × Nat :=
  if 0 ≤ exponent then (numerator, denominator * Nat.pow 2 exponent.toNat)
  else (numerator * Nat.pow 2 (-exponent).toNat, denominator)

/-- The nearest integer to a quotient; a half goes to the even neighbour. -/
def roundHalfEven (numerator denominator : Nat) : Nat :=
  let whole := numerator / denominator
  let twice := 2 * (numerator % denominator)
  if twice > denominator || (twice == denominator && whole % 2 == 1) then whole + 1 else whole

/-- The exponent of the last place of a positive quotient: 53 significant bits, but never below
the least exponent. -/
def lastPlace (numerator denominator : Nat) : Int :=
  let guess : Int := Int.ofNat numerator.log2 - Int.ofNat denominator.log2 - 52
  let (scaled, unit) := inUnits numerator denominator guess
  max (-1074) (if scaled / unit < Nat.pow 2 52 then guess - 1 else guess)

/-- The double-precision number nearest to `±numerator / denominator`; a half goes to the even
significand, and what exceeds the largest number becomes an infinity. -/
def ofRatio (negative : Bool) (numerator denominator : Nat) : Binary64 :=
  if numerator = 0 then .finite negative 0 (-1074)
  else
    let place := lastPlace numerator denominator
    let (scaled, unit) := inUnits numerator denominator place
    let rounded := roundHalfEven scaled unit
    let (significand, exponent) :=
      if rounded = Nat.pow 2 53 then (Nat.pow 2 52, place + 1) else (rounded, place)
    if exponent > 971 then .infinite negative else .finite negative significand exponent

/-- The double-precision number nearest to `±digits · 10^exponent`. Exponents far outside the
range are settled by their size alone. -/
def ofDecimal (negative : Bool) (digits : Nat) (exponent : Int) : Binary64 :=
  let length : Int := Int.ofNat (Nat.toDigits 10 digits).length
  if digits = 0 then .finite negative 0 (-1074)
  else if exponent + length > 400 then .infinite negative
  else if exponent + length < -400 then .finite negative 0 (-1074)
  else if 0 ≤ exponent then ofRatio negative (digits * Nat.pow 10 exponent.toNat) 1
  else ofRatio negative digits (Nat.pow 10 (-exponent).toNat)

/-- The exact value of a finite number. -/
def toRat? : Binary64 → Option Rat
  | .finite negative significand exponent =>
      let magnitude : Rat :=
        if 0 ≤ exponent then ((significand * Nat.pow 2 exponent.toNat : Nat) : Rat)
        else mkRat significand (Nat.pow 2 (-exponent).toNat)
      some (if negative then -magnitude else magnitude)
  | .infinite _ => none

/-- The exact value of the double-precision number nearest to a number; what has no finite
neighbour stays as it is. -/
def rounded (number : Rat) : Rat :=
  ((ofRatio (number < 0) number.num.natAbs number.den).toRat?).getD number

def isFinite : Binary64 → Bool
  | .finite .. => true
  | .infinite _ => false

def isZero : Binary64 → Bool
  | .finite _ significand _ => significand == 0
  | .infinite _ => false

/-- The integer that a finite number equals, if it equals one. -/
def toInt? (number : Binary64) : Option Int :=
  number.toRat?.bind fun value => if value.den = 1 then some value.num else none

/-- The sum of a number with itself; above the largest number it is an infinity. -/
def doubled : Binary64 → Binary64
  | .finite negative significand exponent =>
      let (numerator, denominator) :=
        if 0 ≤ exponent then (significand * Nat.pow 2 exponent.toNat, 1)
        else (significand, Nat.pow 2 (-exponent).toNat)
      ofRatio negative (2 * numerator) denominator
  | .infinite negative => .infinite negative

/-- The largest double-precision number. -/
def largest : Binary64 := .finite false (Nat.pow 2 53 - 1) 971

example : ofRatio false 1 10 = .finite false 7205759403792794 (-56) := by decide +kernel
example : ofDecimal false 5 (-324) = .finite false 1 (-1074) := by decide +kernel

end Binary64
end TypedTables
