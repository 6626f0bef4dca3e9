/-!
Points in time and durations in microseconds, times counted from the start of 1970. The calendar runs from
year 1 to year 9999, and a time reckoned beyond it is an error of its own.
-/
namespace ReadOnce

abbrev Instant := Int
abbrev Duration := Int

namespace Instant

/-- The start of year 1. -/
def earliest : Instant := -62135596800000000

/-- The last microsecond of year 9999. -/
def latest : Instant := 253402300799999999

/-- The time a duration later, if the calendar has it. -/
def after? (now : Instant) (duration : Duration) : Option Instant :=
  let later := now + duration
  if earliest ≤ later ∧ later ≤ latest then some later else none

end Instant

namespace Duration

def second : Duration := 1000000
def day : Duration := 86400 * second

/-- A number of days for which there is no duration. -/
structure DaysFault where
  days : Int
deriving DecidableEq, Repr

/-- How many days a duration may have in either direction. -/
def dayLimit : Nat := 999999999

def DaysFault.message (fault : DaysFault) : String :=
  if -0x80000000 ≤ fault.days ∧ fault.days < 0x80000000 then
    "days=" ++ toString fault.days ++ "; must have magnitude <= 999999999"
  else "Python int too large to convert to C int"

/-- A count of microseconds whose whole days are within the limit. -/
def ofMicroseconds (count : Int) : Except DaysFault Duration :=
  if (count / day).natAbs ≤ dayLimit then .ok count else .error ⟨count / day⟩

def ofDays (days : Int) : Except DaysFault Duration :=
  if days.natAbs ≤ dayLimit then .ok (days * day) else .error ⟨days⟩

end Duration
end ReadOnce
