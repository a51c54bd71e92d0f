import Stencil.Calendar.Text
import Stencil.Text.Space

/-!
# Reading instants

The written forms of dates that are understood: internet timestamps with a zone, dates and local
timestamps without one, and mail header dates.  Each form is a reader that consumes the front of
a text; a form is accepted when nothing is left.
-/

namespace Stencil.Calendar

open Stencil.Text

/-- A reader consumes the front of a text and yields a value, or fails. -/
abbrev Reader (α : Type) :=
  StateT (List Char) Option α

/-- What has been read of an instant, before it is checked.  Months count from one. -/
structure Reading where
  year : Int := 1970
  month : Nat := 1
  day : Nat := 1
  hour : Nat := 0
  minute : Nat := 0
  second : Nat := 0
  nanos : Nat := 0
  offset : Int := 0
  weekday : Option Nat := none

namespace Reading

/-- The instant that a reading denotes, if all parts are in range and the weekday is right.
Second 60 is a leap second. -/
def instant? (r : Reading) : Option Instant :=
  let date : Date := ⟨r.year, r.month - 1, r.day⟩
  let inRange :=
    r.month ≠ 0 && date.isValid && r.hour < 24 && r.minute < 60 && r.second ≤ 60 &&
      Instant.firstDay ≤ date.number && date.number ≤ Instant.lastDay &&
      r.offset.natAbs < 86400 && r.weekday.all (· == Calendar.weekday date.number)
  if inRange then
    let clock : Int := r.hour * 3600 + r.minute * 60 + (min r.second 59 : Nat)
    Instant.ofDay? date.number (clock - r.offset)
      (r.nanos + if r.second = 60 then 1000000000 else 0)
  else none

end Reading

namespace Reader

/-- Whether the text goes on with one of some characters. -/
def peekOneOf (cs : List Char) : Reader Bool := do
  return (← get).head?.any (cs.contains ·)

/-- The character `c`. -/
def char (c : Char) : Reader Unit := fun
  | d :: rest => if d = c then some ((), rest) else none
  | [] => none

/-- Between `least` and `most` decimal digits; there is no upper bound without `most`. -/
def number (least : Nat) (most : Option Nat) : Reader Nat := fun s =>
  let window := match most with
    | some n => s.take n
    | none => s
  let digits := window.takeWhile isDigit
  if digits.length < least then none
  else some (ofDigits 10 digits, s.drop digits.length)

/-- White space, possibly none. -/
def spaces : Reader Unit :=
  modify trimStart

/-- White space, at least one character. -/
def someSpaces : Reader Unit := fun
  | c :: rest => if isSpace c then some ((), trimStart rest) else none
  | [] => none

/-- The end of the text. -/
def atEnd : Reader Unit := fun
  | [] => some ((), [])
  | _ => none

/-- A fraction of a second after its point, in nanoseconds; digits beyond the ninth are dropped. -/
def fraction : Reader Nat := fun s =>
  let digits := s.takeWhile isDigit
  if digits.isEmpty then none
  else
    let kept := digits.take 9
    some (ofDigits 10 kept * Nat.pow 10 (9 - kept.length), s.drop digits.length)

/-- An optional fraction of a second with its point. -/
def optionalFraction : Reader Nat := do
  if ← peekOneOf ['.'] then
    char '.'
    fraction
  else return 0

/-- A zone offset in seconds: sign, two digits of hours, a separator, two digits of minutes. -/
def zoneOffset (minusSigns : List Char) (separator : Reader Unit) : Reader Int := do
  let negative ← peekOneOf minusSigns
  unless negative || (← peekOneOf ['+']) do failure
  modify (·.drop 1)
  let hours ← number 2 (some 2)
  separator
  let minutes ← number 2 (some 2)
  if 60 ≤ minutes then failure
  let offset : Int := hours * 3600 + minutes * 60
  return if negative then -offset else offset

/-- One of some names of three letters in any case, as its place in the list. -/
def shortName (names : List String) : Reader Nat := fun s =>
  let word := (s.take 3).map Char.toLower
  (names.findIdx? fun name => name.toList.map Char.toLower == word).map fun i => (i, s.drop 3)

end Reader

open Reader

/-! ## Internet timestamps -/

/-- A timestamp with a zone, such as `2024-03-07T21:05:01.5+01:00`. -/
def timestamp : Reader Reading := do
  let year ← number 4 (some 4)
  char '-'
  let month ← number 2 (some 2)
  char '-'
  let day ← number 2 (some 2)
  unless ← peekOneOf ['T', 't', ' '] do failure
  modify (·.drop 1)
  let hour ← number 2 (some 2)
  char ':'
  let minute ← number 2 (some 2)
  char ':'
  let second ← number 2 (some 2)
  let nanos ← optionalFraction
  let offset ←
    if ← peekOneOf ['Z', 'z'] then
      modify (·.drop 1)
      pure 0
    else zoneOffset ['-', '\u2212'] (char ':')
  if offset.natAbs > 86340 then failure
  return { year, month, day, hour, minute, second, nanos, offset }

/-! ## Dates and local timestamps -/

/-- A year of up to four digits, or of any length with a sign. -/
def signedYear : Reader Int := do
  spaces
  if ← peekOneOf ['-'] then
    char '-'
    return -(← number 1 none)
  else if ← peekOneOf ['+'] then
    char '+'
    return (← number 1 none)
  else return (← number 1 (some 4))

/-- One or two digits after optional white space. -/
def shortNumber : Reader Nat := do
  spaces
  number 1 (some 2)

/-- Year, month and day between hyphens. -/
def plainDate : Reader Reading := do
  let year ← signedYear
  char '-'
  let month ← shortNumber
  char '-'
  let day ← shortNumber
  return { year, month, day }

/-- Hours and minutes after a date. -/
def withClock (r : Reading) : Reader Reading := do
  let hour ← shortNumber
  char ':'
  let minute ← shortNumber
  return { r with hour, minute }

/-- Seconds after hours and minutes. -/
def withSeconds (r : Reading) : Reader Reading := do
  char ':'
  let second ← shortNumber
  return { r with second }

/-- The forms without a zone, in the order in which they are tried. -/
def localForms : List (Reader Reading) :=
  [plainDate,
    do
      let r ← plainDate
      char 'T'
      let r ← withSeconds (← withClock r)
      return { r with nanos := ← optionalFraction },
    do
      let r ← plainDate
      spaces
      withSeconds (← withClock r),
    do
      let r ← plainDate
      char 'T'
      withClock r]

/-! ## Mail header dates -/

/-- Hours from universal time of the zone names of mail headers.  Single letters other than `j`
carry no information and count as universal time. -/
def zoneHours? (name : String) : Option Int :=
  match name with
  | "gmt" | "ut" | "z" => some 0
  | "edt" => some (-4)
  | "est" | "cdt" => some (-5)
  | "cst" | "mdt" => some (-6)
  | "mst" | "pdt" => some (-7)
  | "pst" => some (-8)
  | _ => if name.length = 1 && name ≠ "j" then some 0 else none

/-- The zone of a mail header: a name, or a sign and four digits. -/
def mailZone : Reader Int := do
  let name := (← get).takeWhile isAsciiLetter
  if name.isEmpty then zoneOffset ['-'] (pure ())
  else
    match zoneHours? (String.ofList (name.map Char.toLower)) with
    | some hours =>
        modify (·.drop name.length)
        return hours * 3600
    | none => failure

/-- The text after a comment in parentheses.  Parentheses nest, and a backslash hides one. -/
def afterComment : Nat → List Char → Option (List Char)
  | 0, '(' :: rest => afterComment 1 rest
  | 0, _ => none
  | _, [] => none
  | 1, ')' :: rest => some rest
  | depth, '\\' :: _ :: rest => afterComment depth rest
  | _, ['\\'] => none
  | depth, c :: rest =>
      afterComment (if c = '(' then depth + 1 else if c = ')' then depth - 1 else depth) rest

theorem length_afterComment {depth : Nat} {s rest : List Char}
    (read : afterComment depth s = some rest) : rest.length < s.length := by
  fun_induction afterComment depth s with
  | case1 _ ih => grind
  | case2 => cases read
  | case3 => cases read
  | case4 => grind
  | case5 => grind
  | case6 => cases read
  | case7 => grind

/-- The text after any number of comments, each with white space in front. -/
def skipComments (s : List Char) : List Char :=
  match _h : afterComment 0 (trimStart s) with
  | none => s
  | some rest => skipComments rest
termination_by s.length
decreasing_by
  have := length_afterComment _h
  have : (trimStart s).length ≤ s.length := (List.dropWhile_sublist _).length_le
  omega

/-- A year of a mail header.  Two digits belong to the years 1950 to 2049, three count from
1900. -/
def mailYear : Reader Int := fun s =>
  (number 2 none s).map fun (year, rest) =>
    let full : Int := match s.length - rest.length with
      | 2 => if year < 50 then year + 2000 else year + 1900
      | 3 => year + 1900
      | _ => year
    (full, rest)

/-- A date such as `Thu, 07 Mar 2024 21:05:01 GMT`. -/
def mailDate : Reader Reading := do
  spaces
  let weekday ← fun s => some ((shortName weekdayNames s).map Prod.fst, s)
  if weekday.isSome then
    modify (·.drop 3)
    char ','
  spaces
  let day ← number 1 (some 2)
  someSpaces
  let month ← shortName monthNames
  someSpaces
  let year ← mailYear
  someSpaces
  let hour ← number 2 (some 2)
  spaces
  char ':'
  spaces
  let minute ← number 2 (some 2)
  let second ← fun s =>
    match char ':' (trimStart s) with
    | some (_, rest) => number 2 (some 2) rest
    | none => some (0, s)
  someSpaces
  let offset ← mailZone
  modify skipComments
  return { year, month := month + 1, day, hour, minute, second, offset, weekday }

/-! ## All forms -/

/-- The accepted forms, in the order in which they are tried. -/
def forms : List (Reader Reading) :=
  timestamp :: localForms ++ [mailDate]

/-- The instant that a text denotes in one form. -/
def readAs? (form : Reader Reading) (s : List Char) : Option Instant := do
  let (reading, rest) ← form s
  if rest.isEmpty then reading.instant? else none

/-- The instant that a text denotes in the first form that accepts it. -/
def read? (s : String) : Option Instant :=
  let text := trim s.toList
  forms.findSome? (readAs? · text)

end Stencil.Calendar
