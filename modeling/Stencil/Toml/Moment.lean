import Stencil.Calendar.Day
import Stencil.Number.Digits
import Stencil.Toml.Reader

/-!
# Dates and times of TOML

A moment has a date, a time of day, or both, and with both of them possibly an offset from universal
time.  Its text spells all of them in one way.
-/

namespace Stencil.Toml

open Text

/-- A time of day. -/
structure Time where
  hour : Nat
  minute : Nat
  second : Nat
  /-- Billionths of a second. -/
  nanos : Nat

/-- An offset from universal time: none at all, or minutes. -/
inductive Offset where
  | universal
  | minutes (count : Int)

/-- A date, a time of day, or both. -/
inductive Moment where
  | date (date : Calendar.Date)
  | time (time : Time)
  | dateTime (date : Calendar.Date) (time : Time) (offset : Option Offset)

/-! ## Text -/

/-- The text of a date. -/
def dateText (date : Calendar.Date) : List Char :=
  Number.padded 4 date.year.toNat ++ '-' :: Number.padded 2 (date.month + 1) ++
    '-' :: Number.padded 2 date.day

/-- The text of a time of day, without zeros at the end of the fraction. -/
def Time.text (time : Time) : List Char :=
  let fraction := ((Number.padded 9 time.nanos).reverse.dropWhile (· = '0')).reverse
  Number.padded 2 time.hour ++ ':' :: Number.padded 2 time.minute ++
    ':' :: Number.padded 2 time.second ++ (if fraction.isEmpty then [] else '.' :: fraction)

/-- The text of an offset. -/
def Offset.text : Offset → List Char
  | universal => ['Z']
  | minutes count =>
      (if count < 0 then '-' else '+') :: Number.padded 2 (count.natAbs / 60) ++
        ':' :: Number.padded 2 (count.natAbs % 60)

/-- The text of a moment. -/
def Moment.text : Moment → List Char
  | date d => dateText d
  | time t => t.text
  | dateTime d t offset => dateText d ++ 'T' :: t.text ++ (offset.map Offset.text).getD []

/-! ## Reading -/

namespace Reader

/-- A number of a fixed count of digits, in a range. -/
def fixedDigits (count low high : Nat) : Reader Nat := do
  let digits := (← get).take count
  let n := ofDigits 10 digits
  if digits.length = count && digits.all isDigit && low ≤ n && n ≤ high then
    word digits
    return n
  else failure

/-- A date that the calendar has. -/
def date : Reader Calendar.Date := do
  let year ← fixedDigits 4 0 9999
  char '-'
  let month ← fixedDigits 2 1 12
  char '-'
  let day ← fixedDigits 2 1 31
  let date : Calendar.Date := ⟨year, month - 1, day⟩
  if date.isValid then return date else failure

/-- The fraction of a second behind its point.  Digits beyond the ninth do not count. -/
def nanos : Reader Nat := do
  let digits ← takeWhile isDigit
  if digits.isEmpty then failure
  let kept := digits.take 9
  return ofDigits 10 kept * Nat.pow 10 (9 - kept.length)

/-- A time of day.  There may be a leap second. -/
def time : Reader Time := do
  let hour ← fixedDigits 2 0 23
  char ':'
  let minute ← fixedDigits 2 0 59
  char ':'
  let second ← fixedDigits 2 0 60
  let fraction ← if (← accepts (char '.')) then nanos else pure 0
  return ⟨hour, minute, second, fraction⟩

/-- An offset. -/
def offset : Reader Offset := do
  let sign ← satisfying fun c => c = 'Z' || c = 'z' || c = '+' || c = '-'
  if sign = 'Z' || sign = 'z' then return .universal
  let hours ← fixedDigits 2 0 23
  char ':'
  let minutes ← fixedDigits 2 0 59
  let count : Int := 60 * hours + minutes
  return .minutes (if sign = '-' then -count else count)

/-- A time of day behind a date, and its offset. -/
def timeOfDate : Reader (Time × Option Offset) := do
  let _ ← satisfying fun c => c = 'T' || c = 't' || c = ' '
  return (← time, ← optional offset)

/-- A moment. -/
def moment : Reader Moment := do
  match (← optional date) with
  | none => return .time (← time)
  | some date =>
      match (← optional timeOfDate) with
      | none => return .date date
      | some (time, offset) => return .dateTime date time offset

end Reader

end Stencil.Toml
