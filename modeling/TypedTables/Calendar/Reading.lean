import TypedTables.Calendar.Basic
import TypedTables.Number.Binary64

/-!
# Reading dates and times

A point in time is read from the standard form (with `T`, `t`, a space or an underscore between
date and time, seconds and offset optional), from a date alone, which means its midnight, or from
a number counted from the start of 1970. Such a number is in seconds up to twenty thousand
million and in milliseconds beyond, and gives universal time. A written point in time, as
opposed to a text to be judged, keeps the offset it was given to the microsecond.
-/

namespace TypedTables

namespace CalendarText

def digitsValue (digits : List Char) : Nat :=
  digits.foldl (fun value digit => value * 10 + (digit.toNat - 48)) 0

/-- The value of exactly `count` decimal digits at the front, and the rest. -/
def fixedDigits? : Nat → List Char → Nat → Option (Nat × List Char)
  | 0, rest, value => some (value, rest)
  | count + 1, character :: rest, value =>
      if character.isDigit then fixedDigits? count rest (value * 10 + (character.toNat - 48))
      else none
  | _ + 1, [], _ => none

def skip? (expected : Char) : List Char → Option (List Char)
  | character :: rest => if character = expected then some rest else none
  | [] => none

/-- `2024-01-02` at the front. -/
def date? (characters : List Char) : Option (CivilDate × List Char) := do
  let (year, rest) ← fixedDigits? 4 characters 0
  let rest ← skip? '-' rest
  let (month, rest) ← fixedDigits? 2 rest 0
  let rest ← skip? '-' rest
  let (day, rest) ← fixedDigits? 2 rest 0
  let date ← CivilDate.ofParts? year month day
  return (date, rest)

/-- A fraction of a second in microseconds: at least one digit, those after the sixth are
dropped. -/
def fraction? (characters : List Char) : Option (Nat × List Char) :=
  let digits := characters.takeWhile Char.isDigit
  if digits.isEmpty then none
  else
    let kept := digits.take 6
    some (digitsValue kept * Nat.pow 10 (6 - kept.length), characters.dropWhile Char.isDigit)

/-- Seconds with an optional fraction, after their colon. -/
def seconds? (characters : List Char) : Option (Nat × Nat × List Char) := do
  let (second, rest) ← fixedDigits? 2 characters 0
  match rest with
  | mark :: afterMark =>
      if mark == '.' || mark == ',' then
        let (microsecond, rest) ← fraction? afterMark
        return (second, microsecond, rest)
      else return (second, 0, rest)
  | [] => return (second, 0, [])

/-- Hours, minutes and optional seconds at the front. -/
def clock? (characters : List Char) : Option (Nat × Nat × Nat × Nat × List Char) := do
  let (hour, rest) ← fixedDigits? 2 characters 0
  let rest ← skip? ':' rest
  let (minute, rest) ← fixedDigits? 2 rest 0
  let (second, microsecond, rest) ←
    match rest with
    | ':' :: afterColon => seconds? afterColon
    | _ => some (0, 0, rest)
  if hour < 24 && minute < 60 && second < 60 then
    return (hour, minute, second, microsecond, rest)
  else none

/-- Hours and minutes of an offset, with or without a colon, less than a day in all. -/
def offsetSize? (characters : List Char) : Option Int := do
  let (hour, rest) ← fixedDigits? 2 characters 0
  let rest := match rest with
    | ':' :: afterColon => afterColon
    | _ => rest
  let (minute, rest) ← fixedDigits? 2 rest 0
  if rest.isEmpty && minute < 60 && hour < 24 then
    return Int.ofNat (hour * 3600 + minute * 60)
  else none

/-- The offset that ends a text: nothing, `Z`, or a sign with hours and minutes. -/
def offset? : List Char → Option (Option Offset)
  | [] => some none
  | mark :: rest =>
      if mark == 'Z' || mark == 'z' then
        if rest.isEmpty then some (some (Offset.ofSeconds 0)) else none
      else if mark == '+' then (offsetSize? rest).map fun size => some (Offset.ofSeconds size)
      else if mark == '-' || mark == '\u2212' then
        (offsetSize? rest).map fun size => some (Offset.ofSeconds (-size))
      else none

/-- The offset that ends a written point in time; it may have seconds and a fraction. -/
def givenOffset? : List Char → Option (Option Offset)
  | [] => some none
  | mark :: rest => do
      if mark == 'Z' then if rest.isEmpty then return some ⟨0, .given⟩ else none
      else
        let (hour, minute, second, microsecond, rest) ← clock? rest
        let size := Int.ofNat ((hour * 3600 + minute * 60 + second) * 1000000 + microsecond)
        if !rest.isEmpty then none
        else if mark == '+' then return some ⟨size, .given⟩
        else if mark == '-' then return some ⟨-size, .given⟩
        else none

/-- A date alone, or a date and a time of day with an offset after them, given how offsets are
read. -/
def timestampWith? (offsetOf? : List Char → Option (Option Offset)) (characters : List Char) :
    Option Timestamp := do
  let (date, rest) ← date? characters
  match rest with
  | [] => return ⟨date, 0, 0, 0, 0, none⟩
  | separator :: afterSeparator =>
      if ['T', 't', ' ', '_'].contains separator then
        let (hour, minute, second, microsecond, rest) ← clock? afterSeparator
        let offset ← offsetOf? rest
        return ⟨date, hour, minute, second, microsecond, offset⟩
      else none

/-- The standard form of a point in time, or of a date alone. -/
def timestamp? (characters : List Char) : Option Timestamp := timestampWith? offset? characters

end CalendarText

namespace Timestamp

/-- The largest count from 1970 that is taken as seconds. -/
def secondsLimit : Nat := 20000000000

/-- A count of microseconds, within the years 1 to 9999. -/
def ofMicroseconds? (count : Int) : Option Timestamp :=
  let seconds := count.fdiv 1000000
  if -62135596800 ≤ seconds && seconds ≤ 253402300799 then
    some (ofUnix seconds (count.fmod 1000000).toNat)
  else none

/-- A whole count, in seconds or milliseconds by its size. -/
def ofCount? (count : Int) : Option Timestamp :=
  ofMicroseconds? (count * (if count.natAbs ≤ secondsLimit then 1000000 else 1000))

/-- The nearest integer to a number that is not negative; a half goes up. -/
def roundHalfUp (number : Rat) : Nat := (number + 1 / 2).floor.toNat

/-- A double-precision count, in seconds or milliseconds by its size; its fraction is multiplied
out in double precision and rounded to microseconds. -/
def ofBinary64? (number : Binary64) : Option Timestamp :=
  number.toRat?.bind fun count =>
    let unit : Nat := if count.abs ≤ (secondsLimit : Rat) then 1000000 else 1000
    let fraction := Binary64.rounded ((count - count.floor) * (unit : Rat))
    ofMicroseconds? (count.floor * unit + roundHalfUp fraction)

def exponent? : List Char → Option Int
  | [] => some 0
  | mark :: rest =>
      let (negative, digits) := match rest with
        | '-' :: digits => (true, digits)
        | '+' :: digits => (false, digits)
        | digits => (false, digits)
      if (mark == 'e' || mark == 'E') && !digits.isEmpty && digits.all Char.isDigit then
        let size := Int.ofNat (CalendarText.digitsValue digits)
        some (if negative then -size else size)
      else none

def wholeLimit : Nat := Nat.pow 2 63 - 1

/-- A sign and digits, or a number with a point, which alone may have an exponent. -/
def ofNumberText? (characters : List Char) : Option Timestamp :=
  let (negative, unsigned) := match characters with
    | '-' :: rest => (true, rest)
    | '+' :: rest => (false, rest)
    | rest => (false, rest)
  let whole := unsigned.takeWhile Char.isDigit
  if wholeLimit < CalendarText.digitsValue whole then none
  else
    match unsigned.dropWhile Char.isDigit with
    | [] =>
        let size := Int.ofNat (CalendarText.digitsValue whole)
        if whole.isEmpty then none else ofCount? (if negative then -size else size)
    | '.' :: rest =>
        let fraction := rest.takeWhile Char.isDigit
        if whole.isEmpty && fraction.isEmpty then none
        else
          (exponent? (rest.dropWhile Char.isDigit)).bind fun exponent =>
            ofBinary64? (Binary64.ofDecimal negative (CalendarText.digitsValue (whole ++ fraction))
              (exponent - Int.ofNat fraction.length))
    | _ => none

def ofText? (text : String) : Option Timestamp :=
  CalendarText.timestamp? text.toList <|> ofNumberText? text.toList

/-- A point in time from its written form, with the offset it was given. -/
def ofIsoText? (text : String) : Option Timestamp :=
  CalendarText.timestampWith? CalendarText.givenOffset? text.toList

end Timestamp

namespace CivilDate

def ofText? (text : String) : Option CivilDate :=
  match CalendarText.date? text.toList with
  | some (date, []) => some date
  | _ => none

end CivilDate
end TypedTables
