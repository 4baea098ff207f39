import Stacktrace.Value.Basic

/-!
# The calendar

Years, months and days as the Gregorian calendar counts them, carried back to the year 1.
`dayNumber` numbers the days one after the other, and `Moment.instant?` counts the microseconds of a
moment whose distance from universal time is known, so that two such moments are the same point in
time exactly when their counts are equal.
-/

namespace Stacktrace

namespace Calendar

def isLeap (year : Nat) : Bool :=
  year % 4 = 0 && (year % 100 ≠ 0 || year % 400 = 0)

def daysIn (year month : Nat) : Nat :=
  if month = 2 then (if isLeap year then 29 else 28)
  else if [4, 6, 9, 11].contains month then 30
  else 31

/-- The number of days of the years before a year. -/
def daysBefore (year : Nat) : Nat :=
  let y := year - 1
  365 * y + y / 4 - y / 100 + y / 400

/-- The number of a day, counted from the first day of the year 1. -/
def dayNumber (year month day : Nat) : Nat :=
  (List.range (month - 1)).foldl (fun days m => days + daysIn year (m + 1)) (daysBefore year) + day

def daySeconds : Int := 86400

end Calendar

namespace Moment

/-- The microseconds in universal time up to a moment, if its distance from universal time is known. -/
def instant? (m : Moment) : Option Int := do
  let time ← m.time
  let offset ← time.offset
  let seconds := Calendar.daySeconds * Calendar.dayNumber m.year m.month m.day +
    (3600 * time.hour + 60 * time.minute + time.second : Nat) - offset
  return 1000000 * seconds + time.microsecond

end Moment

end Stacktrace
