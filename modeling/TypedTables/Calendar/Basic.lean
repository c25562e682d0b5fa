/-!
# Dates and times

Dates of the Gregorian calendar extended back to year 1, and points in time with microseconds
and an optional offset from universal time.
-/

namespace TypedTables

structure CivilDate where
  year : Nat
  month : Nat
  day : Nat
  deriving DecidableEq, Repr

/-- Where an offset comes from: it was given with a point in time, or it was read together with
one from a text or a number. The two are shown differently. -/
inductive OffsetOrigin where
  | given
  | read
  deriving DecidableEq, Repr

structure Offset where
  microseconds : Int
  origin : OffsetOrigin
  deriving DecidableEq, Repr

namespace Offset

/-- Whole seconds, read from a text or a number. -/
def ofSeconds (seconds : Int) : Offset := ⟨seconds * 1000000, .read⟩

end Offset

/-- A date with a time of day; the offset from universal time is missing when the time is
local. -/
structure Timestamp where
  date : CivilDate
  hour : Nat
  minute : Nat
  second : Nat
  microsecond : Nat
  offset : Option Offset
  deriving DecidableEq, Repr

namespace CivilDate

def isLeapYear (year : Nat) : Bool :=
  year % 4 == 0 && (year % 100 != 0 || year % 400 == 0)

def monthLength (year month : Nat) : Nat :=
  match month with
  | 1 | 3 | 5 | 7 | 8 | 10 | 12 => 31
  | 4 | 6 | 9 | 11 => 30
  | 2 => if isLeapYear year then 29 else 28
  | _ => 0

/-- A date with its parts checked: years 1 to 9999, months and days that exist. -/
def ofParts? (year month day : Nat) : Option CivilDate :=
  if 1 ≤ year && year ≤ 9999 && 1 ≤ day && day ≤ monthLength year month then
    some ⟨year, month, day⟩
  else none

/-- Days from 1 January 1970; negative before it. Years are counted from March, so that the leap
day ends its year, in groups of 400. -/
def daysSinceEpoch (date : CivilDate) : Int :=
  let year : Int := if date.month ≤ 2 then Int.ofNat date.year - 1 else Int.ofNat date.year
  let era := year.fdiv 400
  let yearOfEra := year - era * 400
  let monthFromMarch : Int := (Int.ofNat date.month + 9).emod 12
  let dayOfYear := (153 * monthFromMarch + 2) / 5 + Int.ofNat date.day - 1
  let dayOfEra := yearOfEra * 365 + yearOfEra / 4 - yearOfEra / 100 + dayOfYear
  era * 146097 + dayOfEra - 719468

/-- The date a number of days after 1 January 1970. -/
def ofDaysSinceEpoch (days : Int) : CivilDate :=
  let shifted := days + 719468
  let era := shifted.fdiv 146097
  let dayOfEra := shifted - era * 146097
  let yearOfEra :=
    (dayOfEra - dayOfEra / 1460 + dayOfEra / 36524 - dayOfEra / 146096) / 365
  let dayOfYear := dayOfEra - (365 * yearOfEra + yearOfEra / 4 - yearOfEra / 100)
  let monthFromMarch := (5 * dayOfYear + 2) / 153
  let day := dayOfYear - (153 * monthFromMarch + 2) / 5 + 1
  let month := if monthFromMarch < 10 then monthFromMarch + 3 else monthFromMarch - 9
  let year := yearOfEra + era * 400 + (if month ≤ 2 then 1 else 0)
  ⟨year.toNat, month.toNat, day.toNat⟩

end CivilDate

namespace Timestamp

/-- Microseconds from the start of 1970 as the clock shows them, the offset left aside. -/
def clockMicroseconds (timestamp : Timestamp) : Int :=
  (timestamp.date.daysSinceEpoch * 86400 + Int.ofNat timestamp.hour * 3600 +
    Int.ofNat timestamp.minute * 60 + Int.ofNat timestamp.second) * 1000000 +
      Int.ofNat timestamp.microsecond

/-- Two points in time are the same when both are local and agree, or both have an offset and
name the same instant. -/
def sameInstant (left right : Timestamp) : Bool :=
  match left.offset, right.offset with
  | none, none => left.clockMicroseconds == right.clockMicroseconds
  | some leftOffset, some rightOffset =>
      left.clockMicroseconds - leftOffset.microseconds ==
        right.clockMicroseconds - rightOffset.microseconds
  | _, _ => false

/-- The point in universal time that lies the given seconds and microseconds after 1970 began. -/
def ofUnix (seconds : Int) (microsecond : Nat) : Timestamp :=
  let days := seconds.fdiv 86400
  let rest := (seconds - days * 86400).toNat
  { date := CivilDate.ofDaysSinceEpoch days
    hour := rest / 3600
    minute := rest / 60 % 60
    second := rest % 60
    microsecond := microsecond
    offset := some (Offset.ofSeconds 0) }

end Timestamp

example : (CivilDate.mk 2024 2 29).daysSinceEpoch = 19782 := by decide
example : CivilDate.ofDaysSinceEpoch 19782 = ⟨2024, 2, 29⟩ := by decide

end TypedTables
