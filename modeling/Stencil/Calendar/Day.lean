/-!
# Days of the Gregorian calendar

Days are numbered from 1970-01-01 in the proleptic Gregorian calendar.  `Date.number` goes from a
date to its day number and `Date.ofNumber` back.
-/

namespace Stencil.Calendar

/-- Leap years: every fourth, except centuries that are not multiples of four hundred. -/
def isLeap (year : Int) : Bool :=
  year % 4 == 0 && (year % 100 != 0 || year % 400 == 0)

/-- Day number of the first of January of a year. -/
def yearStart (year : Int) : Int :=
  let past := year - 1
  365 * (year - 1970) + past / 4 - past / 100 + past / 400 - 477

/-- The lengths of the months of a year. -/
def monthLengths (leap : Bool) : List Nat :=
  [31, if leap then 29 else 28, 31, 30, 31, 30, 31, 31, 30, 31, 30, 31]

/-- Length of a month, counted from zero. -/
def monthLength (leap : Bool) (month : Nat) : Nat :=
  (monthLengths leap).getD month 0

/-- Days of a year before a month, counted from zero. -/
def daysBefore (leap : Bool) (month : Nat) : Nat :=
  ((monthLengths leap).take month).foldr (· + ·) 0

/-- A calendar date.  Months count from zero and days from one. -/
structure Date where
  year : Int
  month : Nat
  day : Nat
  deriving DecidableEq

namespace Date

/-- A month of the year and a day of that month. -/
def isValid (d : Date) : Bool :=
  d.month < 12 && 1 ≤ d.day && d.day ≤ monthLength (isLeap d.year) d.month

/-- The day number of a date. -/
def number (d : Date) : Int :=
  yearStart d.year + daysBefore (isLeap d.year) d.month + d.day - 1

/-- The year of a day.  The mean length of a year gives a guess that is off by one at most. -/
def yearOf (number : Int) : Int :=
  let guess := 1970 + number * 400 / 146097
  if number < yearStart guess then guess - 1
  else if yearStart (guess + 1) ≤ number then guess + 1
  else guess

/-- The month and day of a day of the year, counted from zero, given the lengths of the months
from `month` on. -/
def monthAndDay (month : Nat) : List Nat → Nat → Nat × Nat
  | [], rest => (month, rest + 1)
  | length :: more, rest =>
      if rest < length then (month, rest + 1) else monthAndDay (month + 1) more (rest - length)

/-- The date of a day number. -/
def ofNumber (number : Int) : Date :=
  let year := yearOf number
  let (month, day) := monthAndDay 0 (monthLengths (isLeap year)) (number - yearStart year).toNat
  ⟨year, month, day⟩

end Date

/-- Day of the week, counted from Sunday. -/
def weekday (number : Int) : Nat :=
  ((number + 4) % 7).toNat

end Stencil.Calendar
