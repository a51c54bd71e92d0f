import Stencil.Calendar.Reading
import Stencil.Proofs.Calendar.Clock
import Stencil.Proofs.Calendar.Precision
import Stencil.Proofs.Number.Numeral

/-!
# Timestamps that are read again

A reader of a fixed count of digits reads a number that is written with that many digits.  So the
timestamp of an instant in the years 0 to 9999 is read part by part, as the instant without what is
finer than a millisecond.
-/

namespace Stencil

open Text (isDigit ofDigits Stops)

namespace Calendar

open Number (padded)

namespace Reader

variable {α β : Type} {reader : Reader α} {next : α → Reader β} {s rest : List Char} {a : α}

/-- A reader that goes on behind another one. -/
theorem bind_of_eq (read : reader s = some (a, rest)) : (reader >>= next) s = next a rest := by
  change (reader s).bind (fun result => next result.1 result.2) = next a rest
  rw [read]
  rfl

theorem number_padded {width n : ℕ} (wide : 0 < width) (fits : n < 10 ^ width) (rest : List Char) :
    number width (some width) (padded width n ++ rest) = some (n, rest) := by
  have length := Number.length_padded wide fits
  have window : (padded width n ++ rest).take width = padded width n := List.take_left' length
  have digits : (padded width n).takeWhile isDigit = padded width n :=
    List.takeWhile_eq_self_iff.mpr (Number.allDigits_padded width n)
  simp only [number, window, digits, length, lt_irrefl, if_false, Number.ofDigits_padded,
    List.drop_left' length]

theorem char_cons (c : Char) (rest : List Char) : char c (c :: rest) = some ((), rest) :=
  if_pos rfl

/-- Three digits of a fraction are milliseconds. -/
theorem fraction_padded {n : ℕ} (fits : n < 1000) (stops : Stops isDigit rest) :
    fraction (padded 3 n ++ rest) = some (n * 1000000, rest) := by
  have length : (padded 3 n).length = 3 := Number.length_padded (by decide) fits
  have digits : (padded 3 n ++ rest).takeWhile isDigit = padded 3 n :=
    Text.takeWhile_append_of_stops (Number.allDigits_padded 3 n) stops
  have some : (padded 3 n).isEmpty = false := by
    rw [List.isEmpty_eq_false_iff, ← List.length_pos_iff, length]
    decide
  have kept : (padded 3 n).take 9 = padded 3 n := List.take_of_length_le (by omega)
  simp only [fraction, digits, some, kept, length, Number.ofDigits_padded, List.drop_left' length]
  rfl

theorem peekOneOf_cons (cs : List Char) (c : Char) (rest : List Char) :
    peekOneOf cs (c :: rest) = some (cs.contains c, c :: rest) :=
  rfl

theorem dropOne_cons (c : Char) (rest : List Char) :
    (modify (List.drop 1) : Reader Unit) (c :: rest) = some (PUnit.unit, rest) :=
  rfl

theorem optionalFraction_padded {n : ℕ} (fits : n < 1000) (stops : Stops isDigit rest) :
    optionalFraction ('.' :: (padded 3 n ++ rest)) = some (n * 1000000, rest) := by
  rw [optionalFraction, bind_of_eq (peekOneOf_cons _ _ _), if_pos (by decide),
    bind_of_eq (char_cons _ _), fraction_padded fits stops]

end Reader

open Reader

/-- A timestamp in universal time, with milliseconds. -/
def timestampText (year month day hour minute second milli : ℕ) : List Char :=
  padded 4 year ++ '-' :: (padded 2 month ++ '-' :: (padded 2 day ++ 'T' :: (padded 2 hour ++
    ':' :: (padded 2 minute ++ ':' :: (padded 2 second ++ '.' :: (padded 3 milli ++ ['Z']))))))

theorem timestamp_timestampText {year month day hour minute second milli : ℕ}
    (yearFits : year < 10000) (monthFits : month < 100) (dayFits : day < 100)
    (hourFits : hour < 100) (minuteFits : minute < 100) (secondFits : second < 100)
    (milliFits : milli < 1000) :
    timestamp (timestampText year month day hour minute second milli) =
      some ({ year, month, day, hour, minute, second, nanos := milli * 1000000 }, []) := by
  have stops : Stops isDigit ['Z'] := Text.stops_cons (by decide) []
  have fraction := optionalFraction_padded milliFits stops
  rw [timestampText, timestamp, bind_of_eq (number_padded (by decide) yearFits _),
    bind_of_eq (char_cons _ _), bind_of_eq (number_padded (by decide) monthFits _),
    bind_of_eq (char_cons _ _), bind_of_eq (number_padded (by decide) dayFits _),
    bind_of_eq (peekOneOf_cons _ _ _), if_pos (by decide)]
  beta_reduce
  rw [bind_of_eq (dropOne_cons _ _), bind_of_eq (number_padded (by decide) hourFits _),
    bind_of_eq (char_cons _ _), bind_of_eq (number_padded (by decide) minuteFits _),
    bind_of_eq (char_cons _ _), bind_of_eq (number_padded (by decide) secondFits _),
    bind_of_eq fraction, bind_of_eq (peekOneOf_cons _ _ _), if_pos (by decide)]
  rfl

theorem trim_timestampText (year month day hour minute second milli : ℕ) :
    Text.trim (timestampText year month day hour minute second milli) =
      timestampText year month day hour minute second milli := by
  apply Text.trim_eq_self_of_ends
  · have digits := Number.allDigits_padded 4 year
    have nonempty : padded 4 year ≠ [] := by
      rw [padded]
      exact List.append_ne_nil_of_right_ne_nil _ (Number.natText_ne_nil year)
    rcases List.exists_cons_of_ne_nil nonempty with ⟨first, rest, split⟩
    rw [timestampText, split]
    rw [split] at digits
    exact Text.stops_cons (Text.not_isSpace_of_isDigit (digits first List.mem_cons_self)) _
  · intro c mem
    simp only [timestampText, ← List.cons_append, ← List.append_assoc, List.getLast?_concat,
      Option.mem_some_iff] at mem
    rw [← mem]
    decide

namespace Instant

variable {t : Instant} (inCommonYears : 0 ≤ t.date.year ∧ t.date.year ≤ 9999)
include inCommonYears

/-- In the years of four digits the written form is a timestamp. -/
theorem toList_isoText :
    t.isoText.toList = timestampText t.date.year.natAbs (t.date.month + 1) t.date.day t.hour
      t.minute t.shownSecond (t.milliOfSecond % 1000) := by
  have year : yearText t.date.year = String.ofList (padded 4 t.date.year.natAbs) := by
    rw [yearText, if_neg (by omega), if_neg (by omega)]
  simp [isoText, year, clock, twoDigits, timestampText]

/-- What is read from a timestamp denotes the instant without what is finer than a millisecond. -/
theorem instant?_reading (inCalendar : t.InCalendar) :
    Reading.instant?
        { year := t.date.year.natAbs, month := t.date.month + 1, day := t.date.day,
          hour := t.hour, minute := t.minute, second := t.second,
          nanos := t.milliOfSecond * 1000000 } = some t.wholeMillis := by
  rcases t.secondOfDay_eq with ⟨clock, hour, minute, second⟩
  have year : ((t.date.year.natAbs : ℕ) : ℤ) = t.date.year := by omega
  have whole : Instant.ofDay? t.dayNumber (t.hour * 3600 + t.minute * 60 + t.second - 0)
      (t.milliOfSecond * 1000000 + 0) = some t.wholeMillis := by
    refine ofDay?_eq_some_iff.mpr ⟨?_, inCalendar.first, inCalendar.last⟩
    have seconds := t.seconds_eq
    simp only [wholeMillis, milliOfSecond, mk.injEq]
    omega
  have shown : min t.second 59 = t.second := by omega
  have noLeapSecond : t.second ≠ 60 := by omega
  have date : (⟨t.date.year, t.date.month, t.date.day⟩ : Date) = t.date := rfl
  simp only [Reading.instant?, year, Nat.add_sub_cancel, date, number_date, shown,
    if_neg noLeapSecond, whole]
  apply if_pos
  simp only [Bool.and_eq_true, decide_eq_true_eq]
  exact ⟨⟨⟨⟨⟨⟨⟨⟨by omega, t.isValid_date⟩, hour⟩, minute⟩, by omega⟩, inCalendar.first⟩,
    inCalendar.last⟩, by decide⟩, rfl⟩

/-- A timestamp of the years 0 to 9999 is read as the instant that it is of. -/
theorem read?_isoText (inCalendar : t.InCalendar) (noLeap : t.nanos < 1000000000) :
    read? t.isoText = some t.wholeMillis := by
  have milli : t.milliOfSecond < 1000 := milliOfSecond_lt_iff.mpr noLeap
  have shown : t.shownSecond = t.second := shownSecond_of_lt noLeap
  rcases t.secondOfDay_eq with ⟨-, hour, minute, second⟩
  rcases t.date_bounds with ⟨month, -, day⟩
  have reading : timestamp t.isoText.toList =
      some ({ year := t.date.year.natAbs, month := t.date.month + 1, day := t.date.day,
              hour := t.hour, minute := t.minute, second := t.second,
              nanos := t.milliOfSecond * 1000000 }, []) := by
    rw [toList_isoText inCommonYears, shown, Nat.mod_eq_of_lt milli]
    exact timestamp_timestampText (by omega) (by omega) (by omega) (by omega) (by omega) (by omega)
      milli
  have trimmed : Text.trim t.isoText.toList = t.isoText.toList := by
    rw [toList_isoText inCommonYears]
    exact trim_timestampText _ _ _ _ _ _ _
  have accepted : readAs? timestamp t.isoText.toList = some t.wholeMillis := by
    rw [readAs?, reading]
    exact instant?_reading inCommonYears inCalendar
  rw [read?, trimmed, forms]
  simp only [List.cons_append, List.findSome?_cons, accepted]

end Instant

end Calendar

end Stencil
