/-
# Dates of the calendar

Days are counted by the Gregorian rule in all years, before its introduction too.
-/
import PlainLink.Time.Duration

namespace PlainLink

structure Date where
  year : Int
  month : Nat
  day : Nat
  deriving DecidableEq, Repr

/-- A day of the week, Monday being 0. -/
abbrev Weekday := Nat

namespace Date

/-- The year has a 29th of February. -/
def isLeap (year : Int) : Bool :=
  year.emod 4 == 0 && (year.emod 100 != 0 || year.emod 400 == 0)

def daysIn (year : Int) (month : Nat) : Nat :=
  if month = 2 then (if isLeap year then 29 else 28)
  else if [4, 6, 9, 11].contains month then 30
  else 31

/-- The day exists, in a year that the calendar covers. -/
def isValid (d : Date) : Bool :=
  -262143 ≤ d.year && d.year ≤ 262142 && 1 ≤ d.month && d.month ≤ 12
    && 1 ≤ d.day && d.day ≤ daysIn d.year d.month

/-- Days from the first of January 1970, counted in years that begin in March. -/
def dayNumber (d : Date) : Int :=
  let year := if d.month ≤ 2 then d.year - 1 else d.year
  let era := year.fdiv 400
  let yearOfEra := year - era * 400
  let month : Int := if d.month ≤ 2 then d.month + 9 else d.month - 3
  let dayOfYear := (153 * month + 2) / 5 + d.day - 1
  era * 146097 + yearOfEra * 365 + yearOfEra / 4 - yearOfEra / 100 + dayOfYear - 719468

def weekday (d : Date) : Weekday :=
  ((d.dayNumber + 3).emod 7).toNat

end Date

/-- A time of the day; the second 60 is a leap second. -/
structure TimeOfDay where
  hour : Nat
  minute : Nat
  second : Nat
  deriving DecidableEq, Repr

def TimeOfDay.isValid (t : TimeOfDay) : Bool :=
  t.hour < 24 && t.minute < 60 && t.second ≤ 60

/-- The instant of a date and a time that are `offset` seconds ahead of universal time; `none`
if they do not exist, or if the weekday that is given with them is another one. -/
def Instant.ofDate? (d : Date) (t : TimeOfDay) (offset : Int) (weekday : Option Weekday) :
    Option Instant :=
  if d.isValid && t.isValid && weekday.all (· == d.weekday) then
    let (second, nanos) := if t.second = 60 then (59, nanosPerSecond) else (t.second, 0)
    let seconds := d.dayNumber * 86400 + (t.hour * 3600 + t.minute * 60 + second : Nat) - offset
    if Instant.first.seconds ≤ seconds && seconds ≤ Instant.lastSecond then some ⟨seconds, nanos⟩
    else none
  else none

end PlainLink
