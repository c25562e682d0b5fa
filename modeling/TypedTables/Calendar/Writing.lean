import TypedTables.Calendar.Basic

/-!
# Written dates and times

The standard form: `2024-01-02` for a date; for a point in time a separator, the time of day,
microseconds only when there are any, and the offset when there is one.
-/

namespace TypedTables

/-- A number with zeros in front of it up to a width. -/
def padded (width number : Nat) : String :=
  let digits := Nat.toDigits 10 number
  String.ofList (List.replicate (width - digits.length) '0' ++ digits)

namespace CivilDate

/-- `2024-01-02`. -/
def isoText (date : CivilDate) : String :=
  s!"{padded 4 date.year}-{padded 2 date.month}-{padded 2 date.day}"

end CivilDate

namespace Timestamp

/-- `+02:00`; seconds and microseconds only when there are any. -/
def offsetText (offset : Offset) : String :=
  let size := offset.microseconds.natAbs
  let clock := size / 1000000
  let sign := if offset.microseconds < 0 then "-" else "+"
  let fraction := if size % 1000000 = 0 then "" else "." ++ padded 6 (size % 1000000)
  let seconds := if size % 60000000 = 0 then "" else ":" ++ padded 2 (clock % 60) ++ fraction
  s!"{sign}{padded 2 (clock / 3600)}:{padded 2 (clock / 60 % 60)}{seconds}"

def clockText (timestamp : Timestamp) : String :=
  s!"{padded 2 timestamp.hour}:{padded 2 timestamp.minute}:{padded 2 timestamp.second}"

/-- The standard form with a separator between date and time. -/
def textWith (separator : String) (timestamp : Timestamp) : String :=
  let fraction :=
    if timestamp.microsecond = 0 then "" else "." ++ padded 6 timestamp.microsecond
  let zone := match timestamp.offset with
    | none => ""
    | some offset => offsetText offset
  timestamp.date.isoText ++ separator ++ timestamp.clockText ++ fraction ++ zone

/-- The standard form with `T`. -/
def isoText (timestamp : Timestamp) : String := timestamp.textWith "T"

end Timestamp
end TypedTables
