import Stacktrace.Text.Numeral
import Stacktrace.Value.Calendar

/-!
# Timestamps

A timestamp is a date, or a date with a time of day behind it and perhaps a distance from universal
time. `Timestamp.read?` reads its written form, and `Timestamp.moment` is the moment it stands for: a
date must be in the calendar of the years 1 to 9999, a time must exist, and a distance must be less
than a day.
-/

namespace Stacktrace.Yaml

open Calendar (daysIn daySeconds)

/-- A distance from universal time as it is written. -/
inductive ZoneText where
  | universal
  | offset (negative : Bool) (hour minute : Nat)
deriving DecidableEq, Repr

/-- A time of day as it is written. -/
structure ClockText where
  hour : Nat
  minute : Nat
  second : Nat
  fraction : Text
  zone : Option ZoneText
deriving DecidableEq, Repr

/-- A timestamp as it is written. -/
structure Timestamp where
  year : Nat
  month : Text
  day : Text
  clock : Option ClockText
deriving DecidableEq, Repr

namespace Timestamp

/-- Splits digits off the front: at least one number of them, and no more than another. -/
def cutDigits? (least most : Nat) (s : Text) : Option (Text × Text) :=
  let digits := (s.take most).takeWhile Char.isDigit
  if digits.length < least then none else some (digits, s.drop digits.length)

def cutChar? (c : Char) : Text → Option Text
  | d :: s => if c = d then some s else none
  | [] => none

def isWhite (c : Char) : Bool :=
  c = ' ' || c = '\t'

/-- Reads what separates a date from a time: the letter T, or white space. -/
def cutSeparator? : Text → Option Text
  | [] => none
  | c :: s =>
    if c = 'T' || c = 't' then some s
    else if isWhite c then some (s.dropWhile isWhite)
    else none

/-- Reads the distance from universal time that ends a timestamp, if there is one. -/
def readZone? (s : Text) : Option (Option ZoneText) :=
  if s.isEmpty then
    some none
  else
    match s.dropWhile isWhite with
    | ['Z'] => some (some .universal)
    | sign :: r =>
      if sign = '+' || sign = '-' then do
        let (hour, r) ← cutDigits? 1 2 r
        let (minute, r) ← match r with
          | ':' :: r => cutDigits? 2 2 r
          | r => some ([], r)
        if r.isEmpty then
          return some (.offset (sign = '-') (Numeral.value hour) (Numeral.value minute))
        else
          none
      else
        none
    | [] => none

def readClock? (s : Text) : Option ClockText := do
  let (hour, s) ← cutDigits? 1 2 s
  let (minute, s) ← cutDigits? 2 2 (← cutChar? ':' s)
  let (second, s) ← cutDigits? 2 2 (← cutChar? ':' s)
  let (fraction, s) := match s with
    | '.' :: r => (r.takeWhile Char.isDigit, r.dropWhile Char.isDigit)
    | r => ([], r)
  let zone ← readZone? s
  return ⟨Numeral.value hour, Numeral.value minute, Numeral.value second, fraction, zone⟩

def read? (s : Text) : Option Timestamp := do
  let (year, s) ← cutDigits? 4 4 s
  let (month, s) ← cutDigits? 1 2 (← cutChar? '-' s)
  let (day, s) ← cutDigits? 1 2 (← cutChar? '-' s)
  if s.isEmpty then
    return ⟨Numeral.value year, month, day, none⟩
  else
    let clock ← readClock? (← cutSeparator? s)
    return ⟨Numeral.value year, month, day, some clock⟩

/-- Whether the form alone tells that this is a timestamp: a date without a time must have two digits
for its month and two for its day. -/
def isTelling (t : Timestamp) : Bool :=
  t.clock.isSome || (t.month.length = 2 && t.day.length = 2)

/-! ## Moments -/

def check (condition : Bool) (reason : Text) : Except Fault Unit :=
  if condition then .ok () else .error (.unreadableScalar reason)

def checkDate (year month day : Nat) : Except Fault Unit := do
  check (1 ≤ year) ("year ".toList ++ (Nat.repr year).toList ++ " is out of range".toList)
  check (1 ≤ month && month ≤ 12) "month must be in 1..12".toList
  check (1 ≤ day && day ≤ daysIn year month) "day is out of range for month".toList

def checkTime (hour minute second : Nat) : Except Fault Unit := do
  check (hour < 24) "hour must be in 0..23".toList
  check (minute < 60) "minute must be in 0..59".toList
  check (second < 60) "second must be in 0..59".toList

/-- A span of seconds, in days and seconds. -/
def showSpan (seconds : Int) : Text :=
  let days := seconds / daySeconds
  let rest := seconds % daySeconds
  "datetime.timedelta(days=".toList ++ (toString days).toList ++
    (if rest = 0 then [] else ", seconds=".toList ++ (toString rest).toList) ++ [')']

def zoneSeconds : ZoneText → Except Fault Int
  | .universal => .ok 0
  | .offset negative hour minute => do
    let distance : Int := 3600 * hour + 60 * minute
    let seconds := if negative then -distance else distance
    check (distance < daySeconds)
      ("offset must be a timedelta strictly between -timedelta(hours=24) and ".toList ++
        "timedelta(hours=24), not ".toList ++ showSpan seconds ++ ['.'])
    return seconds

/-- The first six digits of a fraction, filled up with zeros. -/
def microseconds (fraction : Text) : Nat :=
  Numeral.value (fraction.take 6 ++ List.replicate (6 - fraction.length) '0')

def timeOfDay (c : ClockText) (offset : Option Int) : TimeOfDay :=
  ⟨c.hour, c.minute, c.second, microseconds c.fraction, offset⟩

def moment (t : Timestamp) : Except Fault Moment := do
  let month := Numeral.value t.month
  let day := Numeral.value t.day
  match t.clock with
  | none =>
    checkDate t.year month day
    return ⟨t.year, month, day, none⟩
  | some clock =>
    let offset ← match clock.zone with
      | none => pure none
      | some zone => some <$> zoneSeconds zone
    checkDate t.year month day
    checkTime clock.hour clock.minute clock.second
    return ⟨t.year, month, day, some (timeOfDay clock offset)⟩

end Timestamp

end Stacktrace.Yaml
