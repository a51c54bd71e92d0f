import Stencil.Calendar.Instant
import Stencil.Number.Digits

/-!
# Written instants

The forms in which dates and times are shown, all in universal time.
-/

namespace Stencil.Calendar

open Number (padded natText intText)

/-- English weekday names, cut to three letters, from Sunday on. -/
def weekdayNames : List String :=
  ["Sun", "Mon", "Tue", "Wed", "Thu", "Fri", "Sat"]

/-- English month names, cut to three letters. -/
def monthNames : List String :=
  ["Jan", "Feb", "Mar", "Apr", "May", "Jun", "Jul", "Aug", "Sep", "Oct", "Nov", "Dec"]

/-- The name of the weekday of a day number. -/
def weekdayName (number : Int) : String :=
  weekdayNames.getD (weekday number) ""

/-- The name of a month, counted from zero. -/
def monthName (month : Nat) : String :=
  monthNames.getD month ""

/-- A number of at least two digits. -/
def twoDigits (n : Nat) : String :=
  String.ofList (padded 2 n)

/-- A year of at least four digits.  Years before 0 and after 9999 have a sign. -/
def yearText (year : Int) : String :=
  let digits := String.ofList (padded 4 year.natAbs)
  if year < 0 then "-" ++ digits else if 9999 < year then "+" ++ digits else digits

namespace Instant

/-- Hours, minutes and seconds, such as `21:05:01`. -/
def clock (t : Instant) : String :=
  twoDigits t.hour ++ ":" ++ twoDigits t.minute ++ ":" ++ twoDigits t.shownSecond

/-- Such as `Thu Mar 07 2024`. -/
def dateText (t : Instant) : String :=
  weekdayName t.dayNumber ++ " " ++ monthName t.date.month ++ " " ++ twoDigits t.date.day ++ " " ++
    yearText t.date.year

/-- Such as `21:05:01 GMT+0000 (Coordinated Universal Time)`. -/
def timeText (t : Instant) : String :=
  t.clock ++ " GMT+0000 (Coordinated Universal Time)"

/-- The output form of an instant: date and time. -/
def text (t : Instant) : String :=
  t.dateText ++ " " ++ t.timeText

/-- Such as `Thu, 07 Mar 2024 21:05:01 GMT`. -/
def headerText (t : Instant) : String :=
  weekdayName t.dayNumber ++ ", " ++ twoDigits t.date.day ++ " " ++ monthName t.date.month ++ " " ++
    yearText t.date.year ++ " " ++ t.clock ++ " GMT"

/-- Such as `2024-03-07T21:05:01.000Z`. -/
def isoText (t : Instant) : String :=
  yearText t.date.year ++ "-" ++ twoDigits (t.date.month + 1) ++ "-" ++ twoDigits t.date.day ++
    "T" ++ t.clock ++ "." ++ String.ofList (padded 3 (t.milliOfSecond % 1000)) ++ "Z"

/-- Such as `3/7/2024`. -/
def slashText (t : Instant) : String :=
  String.ofList (natText 10 (t.date.month + 1) ++ '/' :: natText 10 t.date.day ++
    '/' :: intText t.date.year)

/-- Such as `9:05:01 PM`. -/
def twelveHourText (t : Instant) : String :=
  let hour := if t.hour % 12 = 0 then 12 else t.hour % 12
  String.ofList (natText 10 hour) ++ ":" ++ twoDigits t.minute ++ ":" ++ twoDigits t.second ++
    (if t.hour < 12 then " AM" else " PM")

end Instant

end Stencil.Calendar
