import Stencil.Calendar.Reading
import Stencil.Eval.Argument
import Stencil.Eval.Fault

/-!
# Dates

A date is made from nothing, from a text, from a count of milliseconds or from its components, and
answers for its parts and its written forms.  All of it is in universal time.
-/

namespace Stencil.DateMethod

open Calendar (Instant)

/-- The whole numbers that arguments convert to, if all of them are finite. -/
def components? : List Value → Option (List Int)
  | [] => some []
  | v :: rest =>
      let n := v.toNumber
      if n.isFinite then (components? rest).map (n.toInt :: ·) else none

/-- The instant of year, month, day, hour, minute, second and millisecond.  A missing day is the
first, and everything else that is missing is zero. -/
def ofComponents? (args : Arguments) : Option Instant :=
  (components? (args.take 7)).bind fun given =>
    match given ++ [0, 0, 1, 0, 0, 0, 0].drop given.length with
    | [year, month, day, hour, minute, second, milli] =>
        Instant.ofComponents? year month day hour minute second milli
    | _ => none

/-- The instant that the arguments of a date denote. -/
def construct? (now : Instant) : Arguments → Option Instant
  | [] => some now
  | [.date t] => some t
  | [.string s] => Calendar.read? s
  | [v] =>
      let n := v.toNumber
      if n.isFinite then Instant.ofMillis? n.toInt else none
  | args => ofComponents? args

/-- A date from its arguments. -/
def construct (now : Instant) (args : Arguments) : Outcome Instant :=
  match construct? now args with
  | some t => .ok t
  | none => .error .badDate

/-- The method of a name, if dates have it. -/
def call? (t : Instant) (name : String) : Option Value :=
  match name with
  | "getFullYear" | "getUTCFullYear" => some (.int t.date.year)
  | "getMonth" | "getUTCMonth" => some (.nat t.date.month)
  | "getDate" | "getUTCDate" => some (.nat t.date.day)
  | "getDay" | "getUTCDay" => some (.nat (Calendar.weekday t.dayNumber))
  | "getHours" | "getUTCHours" => some (.nat t.hour)
  | "getMinutes" | "getUTCMinutes" => some (.nat t.minute)
  | "getSeconds" | "getUTCSeconds" => some (.nat t.second)
  | "getMilliseconds" | "getUTCMilliseconds" => some (.nat t.milliOfSecond)
  | "getTime" | "valueOf" => some (.int t.millis)
  | "getTimezoneOffset" => some (.nat 0)
  | "toISOString" | "toJSON" => some (.string t.isoText)
  | "toDateString" => some (.string t.dateText)
  | "toTimeString" => some (.string t.timeText)
  | "toLocaleDateString" => some (.string t.slashText)
  | "toLocaleTimeString" => some (.string t.twelveHourText)
  | "toLocaleString" => some (.string (t.slashText ++ ", " ++ t.twelveHourText))
  | "toUTCString" | "toGMTString" => some (.string t.headerText)
  | "toString" => some (.string t.text)
  | _ => none

end Stencil.DateMethod
