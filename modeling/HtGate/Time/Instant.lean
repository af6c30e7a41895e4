import HtGate.Fault
import HtGate.Number.Double
import HtGate.Time.Date
/-!
# Instants

A point in time is a number of seconds since the start of 1970 in double precision. Its date is that of
the microsecond nearest to it; there is one for the years 1 to 9999 alone.
-/

namespace HtGate.Instant

/-- The instant a number of seconds after another. The number is brought to double precision first. -/
def after (now : Rat) (seconds : Int) : Except Fault Rat :=
  match Number.nearestDouble? seconds with
  | none => .error .secondsTooLarge
  | some seconds =>
    match Number.nearestDouble? (now + seconds) with
    | none => .error .clockOverflow
    | some instant => .ok instant

/-- The full seconds before the microsecond nearest to an instant. -/
def fullSeconds (instant : Rat) : Int :=
  let whole := Number.truncate instant
  let rest := (instant - whole) * 1000000
  let micros := Number.roundHalfEven ((Number.nearestDouble? rest).getD rest)
  if 1000000 ≤ micros then whole + 1 else if micros < 0 then whole - 1 else whole

/-- A number in 32 bits, of which the highest is the sign. -/
def wrapped32 (n : Int) : Int := Int.bmod n 0x100000000

/-- The date of a number of seconds. Years are counted from 1900 in 32 bits, and where a year itself does
not fit into 32 bits it is known by what is left of it there. -/
def dateOf (seconds : Int) : Except Fault Date :=
  if seconds < -0x8000000000000000 || 0x8000000000000000 ≤ seconds then .error .clockOverflow
  else
    let date := Date.ofSeconds seconds
    if wrapped32 (date.year - 1900) != date.year - 1900 then .error .dateTooLarge
    else if date.year < 1 || 9999 < date.year then .error (.yearOutOfRange (wrapped32 date.year))
    else .ok date

/-- The date of an instant. -/
def date (instant : Rat) : Except Fault Date := dateOf (fullSeconds instant)

end HtGate.Instant
