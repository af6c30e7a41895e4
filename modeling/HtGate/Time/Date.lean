import HtGate.Text.Decimal
/-!
# Dates

The calendar date of a number of seconds since the start of 1970, and the ways it is written: in a header
`Thu, 01 Jan 1970 00:00:00 GMT`, in a report `1970-01-01T00:00:00`, in a file name `19700101_000000`. The
calendar is the Gregorian one in both directions.
-/

namespace HtGate

/-- A date with the time of day. -/
structure Date where
  year : Int
  month : Nat
  day : Nat
  hour : Nat
  minute : Nat
  second : Nat
  /-- The days since the last Monday. -/
  weekday : Nat
  deriving DecidableEq, Repr

namespace Date

/-- The seconds of a day. -/
def secondsPerDay : Nat := 86400

/-- The days of the 400 years after which the calendar repeats. -/
def daysPerCycle : Nat := 146097

/-- The days from the first of March of the year 0 to the start of 1970. -/
def daysToEpoch : Nat := 719468

/-- The year, month and day of a number of days since the start of 1970. Years are counted from March on,
so that the day that leap years have more is the last one. -/
def civil (days : Int) : Int × Nat × Nat :=
  let shifted := days + daysToEpoch
  let cycle := shifted / (daysPerCycle : Int)
  let day := (shifted % (daysPerCycle : Int)).toNat
  let year := (day - day / 1460 + day / 36524 - day / 146096) / 365
  let dayOfYear := day - (365 * year + year / 4 - year / 100)
  let month := (5 * dayOfYear + 2) / 153
  let dayOfMonth := dayOfYear - (153 * month + 2) / 5 + 1
  if month < 10 then (year + cycle * 400, month + 3, dayOfMonth)
  else (year + cycle * 400 + 1, month - 9, dayOfMonth)

/-- The date of a number of seconds since the start of 1970. -/
def ofSeconds (seconds : Int) : Date :=
  let days := seconds / (secondsPerDay : Int)
  let time := (seconds % (secondsPerDay : Int)).toNat
  let (year, month, day) := civil days
  { year, month, day
    hour := time / 3600
    minute := time / 60 % 60
    second := time % 60
    weekday := ((days + 3) % 7).toNat }

/-- The short names of the days, from Monday on. -/
def dayNames : List String := ["Mon", "Tue", "Wed", "Thu", "Fri", "Sat", "Sun"]

/-- The short names of the months. -/
def monthNames : List String :=
  ["Jan", "Feb", "Mar", "Apr", "May", "Jun", "Jul", "Aug", "Sep", "Oct", "Nov", "Dec"]

/-- The digits of a number, with zeros before them up to a width. -/
def padded (width n : Nat) : Text :=
  let digits := Text.ofNat n
  List.replicate (width - digits.length) '0' ++ digits

/-- How a date from the years 1 to 9999 is written in a header. -/
def headerText (d : Date) : Text :=
  (dayNames.getD d.weekday "").toList ++ ", ".toList ++ padded 2 d.day ++ ' '
    :: (monthNames.getD (d.month - 1) "").toList ++ ' ' :: padded 4 d.year.toNat ++ ' '
    :: padded 2 d.hour ++ ':' :: padded 2 d.minute ++ ':' :: padded 2 d.second ++ " GMT".toList

/-- How a date from the years 1 to 9999 is written in a report. -/
def isoText (d : Date) : Text :=
  padded 4 d.year.toNat ++ '-' :: padded 2 d.month ++ '-' :: padded 2 d.day ++ 'T'
    :: padded 2 d.hour ++ ':' :: padded 2 d.minute ++ ':' :: padded 2 d.second

/-- How a date from the years 1 to 9999 is written in a file name. -/
def stampText (d : Date) : Text :=
  padded 4 d.year.toNat ++ padded 2 d.month ++ padded 2 d.day ++ '_' :: padded 2 d.hour
    ++ padded 2 d.minute ++ padded 2 d.second

end Date

end HtGate
