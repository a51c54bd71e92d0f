import Mathlib.Data.List.GetD
import Mathlib.Data.String.Basic
import Mathlib.Tactic.IntervalCases
import Stencil.Calendar.Text
import Stencil.Proofs.Number.Digits
import Stencil.Proofs.Number.Reading

/-!
# Clocks as texts

The written form of an instant begins with the name of its weekday and has the clock behind the
date, each part of the clock with two digits.  So the written forms of instants of one day are in
the order of the seconds of that day, and those of other days in the order of names first.
-/

namespace Stencil

open Number (digitChar digits digitsBefore natText padded)

/-! ## Two digits -/

theorem Number.digits_ten_of_lt {n : Nat} (short : n < 100) :
    digits 10 n = if n < 10 then [n] else [n / 10, n % 10] := by
  rw [digits, digitsBefore]
  by_cases single : n < 10
  · rw [if_pos (.inr single), if_pos single]
  · rw [if_neg (by omega), if_neg single, digitsBefore, if_pos (.inr (by omega))]

theorem Number.padded_two {n : Nat} (short : n < 100) :
    padded 2 n = [digitChar (n / 10), digitChar (n % 10)] := by
  rw [padded, natText, digits_ten_of_lt short]
  by_cases single : n < 10
  · have tens : n / 10 = 0 := by omega
    have units : n % 10 = n := by omega
    rw [if_pos single, tens, units]
    rfl
  · rw [if_neg single]
    rfl

/-- Texts that begin with two digits are in the order of these numbers, and then in that of what
follows. -/
theorem Number.padded_two_append_lt_iff {m n : Nat} (shortM : m < 100) (shortN : n < 100)
    (s t : List Char) :
    padded 2 m ++ s < padded 2 n ++ t ↔ m < n ∨ m = n ∧ s < t := by
  rw [padded_two shortM, padded_two shortN]
  simp only [List.cons_append, List.nil_append, List.cons_lt_cons_iff]
  rw [digitChar_lt_iff (by omega) (by omega), digitChar_lt_iff (by omega) (by omega),
    digitChar_inj (by omega) (by omega), digitChar_inj (by omega) (by omega)]
  by_cases less : s < t
  · simp only [less, and_true]
    omega
  · simp only [less, and_false, or_false]
    omega

/-! ## Names of weekdays -/

theorem Calendar.weekdayName_mem (number : Int) : weekdayName number ∈ weekdayNames := by
  have inRange : weekday number < weekdayNames.length := by
    simp only [weekday, weekdayNames, List.length_cons, List.length_nil]
    omega
  rw [weekdayName, List.getD_eq_getElem _ _ inRange]
  exact List.getElem_mem inRange

/-- No number begins like the name of a weekday. -/
theorem Calendar.exists_front_of_mem_weekdayNames {name : String} (mem : name ∈ weekdayNames) :
    ∃ c rest, name.toList = c :: rest ∧ Number.NoFront c := by
  have noS : Number.NoFront 'S' := ⟨by decide, by decide, by decide⟩
  have noM : Number.NoFront 'M' := ⟨by decide, by decide, by decide⟩
  have noT : Number.NoFront 'T' := ⟨by decide, by decide, by decide⟩
  have noW : Number.NoFront 'W' := ⟨by decide, by decide, by decide⟩
  have noF : Number.NoFront 'F' := ⟨by decide, by decide, by decide⟩
  simp only [weekdayNames, List.mem_cons, List.not_mem_nil, or_false] at mem
  rcases mem with rfl | rfl | rfl | rfl | rfl | rfl | rfl
  · exact ⟨'S', _, rfl, noS⟩
  · exact ⟨'M', _, rfl, noM⟩
  · exact ⟨'T', _, rfl, noT⟩
  · exact ⟨'W', _, rfl, noW⟩
  · exact ⟨'T', _, rfl, noT⟩
  · exact ⟨'F', _, rfl, noF⟩
  · exact ⟨'S', _, rfl, noS⟩

/-- The written form of an instant begins with the name of its weekday. -/
theorem Calendar.Instant.exists_toList_text (t : Calendar.Instant) :
    ∃ rest, t.text.toList = (weekdayName t.dayNumber).toList ++ rest := by
  simp only [text, dateText, String.toList_append, List.append_assoc]
  exact ⟨_, rfl⟩

/-- The written form of an instant is never read as a number. -/
theorem Calendar.Instant.ofText_text (t : Calendar.Instant) :
    Number.ofText t.text = Binary64.nan := by
  rcases exists_front_of_mem_weekdayNames (weekdayName_mem t.dayNumber) with
    ⟨c, rest, name, noFront⟩
  rcases t.exists_toList_text with ⟨more, text⟩
  rw [name, List.cons_append] at text
  exact Number.ofText_eq_nan noFront text

/-! ## Clocks -/

theorem append_lt_append_iff (front : List Char) {s t : List Char} :
    front ++ s < front ++ t ↔ s < t := by
  induction front with
  | nil => rfl
  | cons c front ih => rw [List.cons_append, List.cons_append, List.cons_lt_cons_self, ih]

namespace Calendar.Instant

/-- The characters of a clock in front of what follows it. -/
def clockBefore (t : Instant) (rest : List Char) : List Char :=
  padded 2 t.hour ++ ':' :: (padded 2 t.minute ++ ':' :: (padded 2 t.shownSecond ++ rest))

theorem toList_text (t : Instant) :
    t.text.toList =
      t.dateText.toList ++
        ' ' :: t.clockBefore " GMT+0000 (Coordinated Universal Time)".toList := by
  simp [text, timeText, clock, twoDigits, clockBefore]

theorem secondOfDay_lt (t : Instant) : t.secondOfDay < 86400 := by
  simp only [secondOfDay]
  omega

theorem seconds_eq (t : Instant) : t.seconds = t.dayNumber * 86400 + t.secondOfDay := by
  simp only [dayNumber, secondOfDay]
  omega

/-- A clock that shows no leap second. -/
theorem shownSecond_of_lt {t : Instant} (noLeap : t.nanos < 1000000000) :
    t.shownSecond = t.secondOfDay % 60 := by
  simp only [shownSecond, second]
  omega

theorem clockBefore_lt_iff {a b : Instant} (noLeapA : a.nanos < 1000000000)
    (noLeapB : b.nanos < 1000000000) (rest : List Char) :
    a.clockBefore rest < b.clockBefore rest ↔ a.secondOfDay < b.secondOfDay := by
  have irrefl : ¬ rest < rest := List.lt_irrefl rest
  have colon : ¬ (':' : Char) < ':' := by decide
  have left := a.secondOfDay_lt
  have right := b.secondOfDay_lt
  rw [clockBefore, clockBefore, shownSecond_of_lt noLeapA, shownSecond_of_lt noLeapB]
  simp only [hour, minute]
  rw [Number.padded_two_append_lt_iff (by omega) (by omega), List.cons_lt_cons_iff,
    Number.padded_two_append_lt_iff (by omega) (by omega), List.cons_lt_cons_iff,
    Number.padded_two_append_lt_iff (by omega) (by omega)]
  simp only [irrefl, colon, and_false, or_false, false_or, true_and]
  omega

theorem clockBefore_eq {a b : Instant} (noLeapA : a.nanos < 1000000000)
    (noLeapB : b.nanos < 1000000000) (same : a.secondOfDay = b.secondOfDay) (rest : List Char) :
    a.clockBefore rest = b.clockBefore rest := by
  simp only [clockBefore, hour, minute, shownSecond_of_lt noLeapA, shownSecond_of_lt noLeapB, same]

/-! ## Instants of one day -/

theorem dateText_eq {a b : Instant} (sameDay : a.dayNumber = b.dayNumber) :
    a.dateText = b.dateText := by
  simp only [dateText, date, sameDay]

section Day

variable {a b : Instant} (sameDay : a.dayNumber = b.dayNumber) (noLeapA : a.nanos < 1000000000)
  (noLeapB : b.nanos < 1000000000)
include sameDay noLeapA noLeapB

theorem text_lt_iff : a.text < b.text ↔ a.secondOfDay < b.secondOfDay := by
  rw [String.lt_iff_toList_lt, toList_text, toList_text, dateText_eq sameDay, append_lt_append_iff,
    List.cons_lt_cons_self, clockBefore_lt_iff noLeapA noLeapB]

theorem text_eq (same : a.secondOfDay = b.secondOfDay) : a.text = b.text := by
  rw [← String.toList_inj, toList_text, toList_text, dateText_eq sameDay,
    clockBefore_eq noLeapA noLeapB same]

/-- The written forms of instants of one day are in the order of time, unless the instants differ
in the fraction of one second only: the written forms do not show it. -/
theorem compare_text_iff :
    compare a.text b.text = compare a.millis b.millis ↔
      (a.seconds = b.seconds → a.millis = b.millis) := by
  have left := a.seconds_eq
  have right := b.seconds_eq
  rcases lt_trichotomy a.secondOfDay b.secondOfDay with less | same | greater
  · have millis : a.millis < b.millis := by
      simp only [millis]
      omega
    rw [compare_lt_iff_lt.mpr ((text_lt_iff sameDay noLeapA noLeapB).mpr less),
      compare_lt_iff_lt.mpr millis]
    refine iff_of_true rfl fun seconds => ?_
    omega
  · rw [compare_eq_iff_eq.mpr (text_eq sameDay noLeapA noLeapB same), eq_comm, compare_eq_iff_eq]
    refine ⟨fun millis _ => millis, fun millis => millis ?_⟩
    omega
  · have millis : b.millis < a.millis := by
      simp only [millis]
      omega
    rw [compare_gt_iff_gt.mpr ((text_lt_iff sameDay.symm noLeapB noLeapA).mpr greater),
      compare_gt_iff_gt.mpr millis]
    refine iff_of_true rfl fun seconds => ?_
    omega

end Day

end Calendar.Instant

end Stencil
