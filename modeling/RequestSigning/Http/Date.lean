/-!
# Dates of requests

A timestamp counts seconds from the start of 1970 in UTC. Its text gives the weekday, the civil
date in the proleptic Gregorian calendar, and the time of day: `Tue, 15 Nov 1994 08:12:31 GMT`.
A timestamp in a leap second has the nanoseconds run on past a full second, and is written with the
next number of a second: as second 60 behind a minute's last one. Behind any other second, where a
timestamp can run on as well, this is the number of the ordinary second that follows.
-/

namespace RequestSigning

/-! ### Timestamps -/

/-- The first second that can be told, at the start of the year -262143. -/
def firstSecond : Int := -8334601228800

/-- The last second that can be told, at the end of the year 262142. -/
def lastSecond : Int := 8210266876799

/-- Nanoseconds in a second. -/
def nanosPerSecond : Nat := 1000000000

/-- A **timestamp**: seconds since the start of 1970, and nanoseconds within the second, which may
run on through a leap second. -/
structure Timestamp where
  seconds : Int
  nanos : Nat
  inRange : firstSecond ≤ seconds ∧ seconds ≤ lastSecond
  nanos_lt : nanos < 2 * nanosPerSecond
  deriving DecidableEq

namespace Timestamp

/-- The timestamp of a count of seconds and nanoseconds, if there is one. A count has leap seconds
behind the last second of a minute only. -/
def of? (seconds : Int) (nanos : Nat) : Option Timestamp :=
  if inRange : firstSecond ≤ seconds ∧ seconds ≤ lastSecond then
    if counted : nanos < nanosPerSecond ∨ seconds % 60 = 59 ∧ nanos < 2 * nanosPerSecond then
      have nanos_lt : nanos < 2 * nanosPerSecond := by
        rw [nanosPerSecond] at *
        omega
      some ⟨seconds, nanos, inRange, nanos_lt⟩
    else none
  else none

/-- Days since 1970-01-01. -/
def dayNumber (t : Timestamp) : Int := t.seconds / 86400

/-- Seconds since the start of the day, in which a leap second is not counted. -/
def secondOfDay (t : Timestamp) : Nat := (t.seconds % 86400).toNat

/-- Whether a timestamp lies in a leap second. -/
def inLeapSecond (t : Timestamp) : Bool := nanosPerSecond ≤ t.nanos

end Timestamp

/-! ### Civil dates -/

/-- A **civil date** in the proleptic Gregorian calendar. -/
structure CivilDate where
  year : Int
  month : Nat
  day : Nat
  deriving DecidableEq, Repr

/-- The date of a day, by its number from 1970-01-01. Years are counted from March in cycles
of 400, which all have 146097 days. -/
def CivilDate.ofDayNumber (days : Int) : CivilDate :=
  let z := days + 719468
  let cycle := z / 146097
  let d := (z % 146097).toNat
  let y := (d - d / 1460 + d / 36524 - d / 146096) / 365
  let dayOfYear := d - (365 * y + y / 4 - y / 100)
  let m := (5 * dayOfYear + 2) / 153
  let day := dayOfYear - (153 * m + 2) / 5 + 1
  let month := if m < 10 then m + 3 else m - 9
  ⟨(y : Int) + cycle * 400 + (if month ≤ 2 then 1 else 0), month, day⟩

/-! ### Text -/

/-- The names of the weekdays, from Sunday. -/
def weekdayNames : List String := ["Sun", "Mon", "Tue", "Wed", "Thu", "Fri", "Sat"]

/-- The names of the months, from January. -/
def monthNames : List String :=
  ["Jan", "Feb", "Mar", "Apr", "May", "Jun", "Jul", "Aug", "Sep", "Oct", "Nov", "Dec"]

/-- The name of the weekday of a day; 1970-01-01 was a Thursday. -/
def weekdayName (days : Int) : String :=
  weekdayNames.getD ((days + 4) % 7).toNat ""

/-- A number in at least `width` decimal digits. -/
def paddedDecimal (width n : Nat) : String :=
  let digits := Nat.toDigits 10 n
  String.ofList (List.replicate (width - digits.length) '0' ++ digits)

/-- The text of a year: four digits from 0 to 9999, and a sign before all other years. -/
def yearText (year : Int) : String :=
  if year < 0 then "-" ++ paddedDecimal 4 year.natAbs
  else if year ≤ 9999 then paddedDecimal 4 year.toNat
  else "+" ++ paddedDecimal 4 year.toNat

/-- The text of a timestamp as a `date` header has it. -/
def httpDate (t : Timestamp) : String :=
  let date := CivilDate.ofDayNumber t.dayNumber
  let s := t.secondOfDay
  let second := if t.inLeapSecond then s % 60 + 1 else s % 60
  weekdayName t.dayNumber ++ ", " ++ paddedDecimal 2 date.day ++ " " ++
    monthNames.getD (date.month - 1) "" ++ " " ++ yearText date.year ++ " " ++
    paddedDecimal 2 (s / 3600) ++ ":" ++ paddedDecimal 2 (s / 60 % 60) ++ ":" ++
    paddedDecimal 2 second ++ " GMT"

/-- The text of a timestamp as a log line has it, to the microsecond. -/
def logTime (t : Timestamp) : String :=
  let date := CivilDate.ofDayNumber t.dayNumber
  let s := t.secondOfDay
  let second := if t.inLeapSecond then s % 60 + 1 else s % 60
  yearText date.year ++ "-" ++ paddedDecimal 2 date.month ++ "-" ++ paddedDecimal 2 date.day ++
    "T" ++ paddedDecimal 2 (s / 3600) ++ ":" ++ paddedDecimal 2 (s / 60 % 60) ++ ":" ++
    paddedDecimal 2 second ++ "." ++ paddedDecimal 6 (t.nanos % nanosPerSecond / 1000) ++ "Z"

end RequestSigning
