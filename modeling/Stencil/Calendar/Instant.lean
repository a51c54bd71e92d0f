import Stencil.Calendar.Day

/-!
# Instants

An instant is a count of seconds since the start of 1970 in universal time with a fraction in
nanoseconds.  A fraction of a second or more marks a leap second: it belongs to the second it is
written with, one that clocks show as `:60`.
-/

namespace Stencil.Calendar

/-- A point in time. -/
structure Instant where
  seconds : Int
  nanos : Nat
  deriving DecidableEq

namespace Instant

/-- The first day that has a date: 1 January of the year -262143. -/
def firstDay : Int :=
  yearStart (-262143)

/-- The last day that has a date: 31 December of the year 262142. -/
def lastDay : Int :=
  yearStart 262143 - 1

/-- The instant of a day number, a second of that day and a fraction, if the day has a date. -/
def ofDay? (day : Int) (second : Int) (nanos : Nat) : Option Instant :=
  let seconds := day * 86400 + second
  if firstDay ≤ seconds / 86400 && seconds / 86400 ≤ lastDay then some ⟨seconds, nanos⟩ else none

/-- The instant a count of milliseconds after the start of 1970. -/
def ofMillis? (millis : Int) : Option Instant :=
  ofDay? 0 (millis / 1000) ((millis % 1000).toNat * 1000000)

/-- Milliseconds since the start of 1970. -/
def millis (t : Instant) : Int :=
  t.seconds * 1000 + (t.nanos / 1000000 : Nat)

/-- Day number of an instant. -/
def dayNumber (t : Instant) : Int :=
  t.seconds / 86400

/-- Seconds since midnight. -/
def secondOfDay (t : Instant) : Nat :=
  (t.seconds % 86400).toNat

/-- Calendar date. -/
def date (t : Instant) : Date :=
  Date.ofNumber t.dayNumber

/-- Hour of the day. -/
def hour (t : Instant) : Nat :=
  t.secondOfDay / 3600

/-- Minute of the hour. -/
def minute (t : Instant) : Nat :=
  t.secondOfDay / 60 % 60

/-- Second of the minute, 59 in a leap second. -/
def second (t : Instant) : Nat :=
  t.secondOfDay % 60

/-- Second of the minute as clocks show it, 60 in a leap second. -/
def shownSecond (t : Instant) : Nat :=
  t.second + t.nanos / 1000000000

/-- Milliseconds of the second, a thousand or more in a leap second. -/
def milliOfSecond (t : Instant) : Nat :=
  t.nanos / 1000000

/-! ## Instants from components -/

/-- The nearest signed 64-bit word. -/
def clampWord (n : Int) : Int :=
  max (-9223372036854775808) (min 9223372036854775807 n)

/-- A sum of spans of time, none of which, nor any partial sum, may exceed the largest count of
milliseconds in a 64-bit word. -/
def sumSpans? (total : Int) : List Int → Option Int
  | [] => some total
  | span :: rest =>
      if span.natAbs ≤ 9223372036854775807 && (total + span).natAbs ≤ 9223372036854775807 then
        sumSpans? (total + span) rest
      else none

/-- The instant of integral components.  Years 0 to 99 belong to the twentieth century; every
other component may lie outside its usual range and carries into the larger ones. -/
def ofComponents? (year month day hour minute second milli : Int) : Option Instant :=
  let year := if 0 ≤ year && year ≤ 99 then year + 1900 else year
  if year.natAbs > 262143 || month.natAbs > 262143 * 12 then none
  else
    let months := year * 12 + month
    let firstOfMonth : Date := ⟨months / 12, (months % 12).toNat, 1⟩
    if firstOfMonth.number < firstDay || lastDay < firstOfMonth.number then none
    else
      (sumSpans? 0
        [(clampWord day - 1) * 86400000, clampWord hour * 3600000, clampWord minute * 60000,
          clampWord second * 1000, clampWord milli]).bind fun span =>
        ofMillis? (firstOfMonth.number * 86400000 + span)

end Instant

end Stencil.Calendar
