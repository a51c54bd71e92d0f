import Mathlib.Algebra.Order.BigOperators.Group.List
import Mathlib.Algebra.Order.Ring.Int
import Mathlib.Algebra.Order.Ring.Nat
import Stencil.Calendar.Day

/-!
# Day numbers

The day number of a date counts the days of the calendar: it is zero on the first of January 1970
and grows by one from each date to the next.  Every day number belongs to one date, which is found
by its year and then by the months of that year.
-/

namespace Stencil.Calendar

/-! ## Years -/

/-- The length of a year. -/
def yearLength (leap : Bool) : ℤ :=
  if leap then 366 else 365

theorem yearStart_succ (year : ℤ) :
    yearStart (year + 1) = yearStart year + yearLength (isLeap year) := by
  have fours : year / 4 - (year - 1) / 4 = if year % 4 = 0 then 1 else 0 := by
    split <;> omega
  have hundreds : year / 100 - (year - 1) / 100 = if year % 100 = 0 then 1 else 0 := by
    split <;> omega
  have cycles : year / 400 - (year - 1) / 400 = if year % 400 = 0 then 1 else 0 := by
    split <;> omega
  simp only [yearStart, yearLength, isLeap, Int.add_sub_cancel, Bool.and_eq_true, Bool.or_eq_true,
    beq_iff_eq, bne_iff_ne]
  split_ifs at * <;> omega

theorem yearStart_lt_succ (year : ℤ) : yearStart year < yearStart (year + 1) := by
  rw [yearStart_succ, yearLength]
  split <;> omega

theorem yearStart_le_of_le {first second : ℤ} (later : first ≤ second) :
    yearStart first ≤ yearStart second := by
  rcases Int.le.dest later with ⟨years, rfl⟩
  induction years with
  | zero => simp
  | succ years inductionHypothesis =>
      have next := yearStart_lt_succ (first + years)
      have earlier := inductionHypothesis (by omega)
      push_cast
      rw [← add_assoc]
      omega

/-- The guess of a year from the mean length of years is off by one at most. -/
theorem yearOf_bounds (number : ℤ) :
    yearStart (Date.yearOf number) ≤ number ∧ number < yearStart (Date.yearOf number + 1) := by
  have low : yearStart (1970 + number * 400 / 146097 - 1) ≤ number := by
    simp only [yearStart]
    omega
  have high : number < yearStart (1970 + number * 400 / 146097 + 1 + 1) := by
    simp only [yearStart]
    omega
  simp only [Date.yearOf]
  split_ifs with before after
  · exact ⟨low, by rwa [Int.sub_add_cancel]⟩
  · exact ⟨after, high⟩
  · omega

/-- A day belongs to the year in whose days it lies. -/
theorem yearOf_eq {number year : ℤ} (low : yearStart year ≤ number)
    (high : number < yearStart (year + 1)) : Date.yearOf number = year := by
  have bounds := yearOf_bounds number
  rcases lt_trichotomy (Date.yearOf number) year with less | same | greater
  · have := yearStart_le_of_le (show Date.yearOf number + 1 ≤ year by omega)
    omega
  · exact same
  · have := yearStart_le_of_le (show year + 1 ≤ Date.yearOf number by omega)
    omega

/-! ## Months -/

theorem daysBefore_eq (leap : Bool) (month : ℕ) :
    daysBefore leap month = ((monthLengths leap).take month).sum :=
  rfl

theorem daysBefore_succ (leap : Bool) {month : ℕ} (inYear : month < 12) :
    daysBefore leap (month + 1) = daysBefore leap month + monthLength leap month := by
  have listed : month < (monthLengths leap).length := inYear
  rw [daysBefore_eq, daysBefore_eq, List.take_add_one, List.sum_append, monthLength,
    List.getD_eq_getElem?_getD, List.getElem?_eq_getElem listed]
  simp

theorem monthLength_le (leap : Bool) (month : ℕ) : monthLength leap month ≤ 31 := by
  have all : ∀ length ∈ monthLengths leap, length ≤ 31 := by
    cases leap <;> decide
  rw [monthLength, List.getD_eq_getElem?_getD]
  cases listed : (monthLengths leap)[month]? with
  | none => exact Nat.zero_le 31
  | some length => exact all length (List.mem_of_getElem? listed)

/-- The months make up the year. -/
theorem daysBefore_twelve (leap : Bool) : (daysBefore leap 12 : ℤ) = yearLength leap := by
  cases leap <;> decide

theorem daysBefore_add_monthLength_le (leap : Bool) {month : ℕ} (inYear : month < 12) :
    (daysBefore leap month + monthLength leap month : ℤ) ≤ yearLength leap := by
  have part : daysBefore leap (month + 1) ≤ daysBefore leap 12 := by
    rw [daysBefore_eq, daysBefore_eq]
    have front : ((monthLengths leap).take (month + 1)).Sublist ((monthLengths leap).take 12) :=
      List.take_sublist_take_left (by omega)
    exact front.sum_le_sum fun _ _ => Nat.zero_le _
  rw [← daysBefore_twelve leap, ← Nat.cast_add, ← daysBefore_succ leap inYear]
  exact_mod_cast part

namespace Date

/-- The month and day of a day of the year, given the lengths of the months: the days of the months
before it and its place in the month add up to its place in the year. -/
theorem monthAndDay_add (month : ℕ) {lengths : List ℕ} {index day : ℕ}
    (listed : index < lengths.length) (first : 1 ≤ day) (last : day ≤ lengths.getD index 0) :
    monthAndDay month lengths ((lengths.take index).sum + (day - 1)) = (month + index, day) := by
  induction index generalizing month lengths with
  | zero =>
      cases lengths with
      | nil => exact absurd listed (Nat.not_lt_zero _)
      | cons length more =>
          rw [List.getD_cons_zero] at last
          rw [List.take_zero, List.sum_nil, Nat.zero_add, monthAndDay, if_pos (by omega),
            Nat.sub_add_cancel first, Nat.add_zero]
  | succ index inductionHypothesis =>
      cases lengths with
      | nil => exact absurd listed (Nat.not_lt_zero _)
      | cons length more =>
          rw [List.length_cons] at listed
          rw [List.getD_cons_succ] at last
          have later := inductionHypothesis (month + 1) (by omega) last
          rw [List.take_succ_cons, List.sum_cons, monthAndDay, if_neg (by omega),
            show length + (more.take index).sum + (day - 1) - length =
              (more.take index).sum + (day - 1) by omega, later]
          exact congrArg (·, day) (by omega)

theorem exists_month {lengths : List ℕ} {rest : ℕ} (inside : rest < lengths.sum) :
    ∃ index day, index < lengths.length ∧ 1 ≤ day ∧ day ≤ lengths.getD index 0 ∧
      (lengths.take index).sum + (day - 1) = rest := by
  induction lengths generalizing rest with
  | nil => exact absurd inside (Nat.not_lt_zero _)
  | cons length more inductionHypothesis =>
      rw [List.sum_cons] at inside
      by_cases here : rest < length
      · exact ⟨0, rest + 1, by simp, by omega, by rw [List.getD_cons_zero]; omega, by simp⟩
      · have later : rest - length < more.sum := by omega
        rcases inductionHypothesis later with ⟨index, day, listed, first, last, place⟩
        refine ⟨index + 1, day, by simpa using listed, first, by simpa using last, ?_⟩
        rw [List.take_succ_cons, List.sum_cons]
        omega

variable {d : Date}

theorem isValid_iff :
    d.isValid = true ↔ d.month < 12 ∧ 1 ≤ d.day ∧ d.day ≤ monthLength (isLeap d.year) d.month := by
  simp only [isValid, Bool.and_eq_true, decide_eq_true_eq, and_assoc]

/-- A date lies in the days of its year. -/
theorem number_bounds (valid : d.isValid) :
    yearStart d.year ≤ d.number ∧ d.number < yearStart (d.year + 1) := by
  rcases isValid_iff.mp valid with ⟨inYear, first, last⟩
  have within := daysBefore_add_monthLength_le (isLeap d.year) inYear
  rw [yearStart_succ, number]
  omega

/-- The date of the number of a date is that date. -/
theorem ofNumber_number (valid : d.isValid) : ofNumber d.number = d := by
  rcases isValid_iff.mp valid with ⟨inYear, first, last⟩
  rcases number_bounds valid with ⟨low, high⟩
  have place : (d.number - yearStart d.year).toNat =
      ((monthLengths (isLeap d.year)).take d.month).sum + (d.day - 1) := by
    rw [← daysBefore_eq, number]
    omega
  rw [ofNumber, yearOf_eq low high]
  simp only [place, monthAndDay_add 0 inYear first last, Nat.zero_add]

/-- The fields of the date of a day number. -/
theorem exists_ofNumber_eq (day : ℤ) :
    ∃ month dayOfMonth, ofNumber day = ⟨yearOf day, month, dayOfMonth⟩ ∧ month < 12 ∧
      1 ≤ dayOfMonth ∧ dayOfMonth ≤ monthLength (isLeap (yearOf day)) month ∧
      yearStart (yearOf day) + daysBefore (isLeap (yearOf day)) month + dayOfMonth - 1 = day := by
  rcases yearOf_bounds day with ⟨low, high⟩
  have total : ((monthLengths (isLeap (yearOf day))).sum : ℤ) =
      yearLength (isLeap (yearOf day)) := daysBefore_twelve _
  rw [yearStart_succ] at high
  have inside : (day - yearStart (yearOf day)).toNat <
      (monthLengths (isLeap (yearOf day))).sum := by omega
  rcases exists_month inside with ⟨month, dayOfMonth, listed, first, last, place⟩
  refine ⟨month, dayOfMonth, ?_, listed, first, last, ?_⟩
  · rw [ofNumber, ← place]
    simp only [monthAndDay_add 0 listed first last, Nat.zero_add]
  · rw [daysBefore_eq]
    omega

theorem isValid_ofNumber (day : ℤ) : (ofNumber day).isValid := by
  rcases exists_ofNumber_eq day with ⟨month, dayOfMonth, fields, inYear, first, last, -⟩
  rw [fields]
  exact isValid_iff.mpr ⟨inYear, first, last⟩

/-- Every day number is that of its date. -/
theorem number_ofNumber (day : ℤ) : (ofNumber day).number = day := by
  rcases exists_ofNumber_eq day with ⟨month, dayOfMonth, fields, -, -, -, place⟩
  rw [fields]
  exact place

/-! ## Consecutive days -/

/-- The day after a date: the next one of the month, or else the first of the next month. -/
def next (d : Date) : Date :=
  if d.day < monthLength (isLeap d.year) d.month then { d with day := d.day + 1 }
  else if d.month < 11 then ⟨d.year, d.month + 1, 1⟩
  else ⟨d.year + 1, 0, 1⟩

theorem number_start_of_1970 : number ⟨1970, 0, 1⟩ = 0 := by
  decide

/-- Day numbers count the days of the calendar. -/
theorem number_next (valid : d.isValid) : d.next.number = d.number + 1 := by
  rcases isValid_iff.mp valid with ⟨inYear, first, last⟩
  have behind := daysBefore_succ (isLeap d.year) inYear
  simp only [next]
  split_ifs with inMonth notLast
  · simp only [number]
    omega
  · simp only [number]
    omega
  · have december : d.month = 11 := by omega
    have whole : (daysBefore (isLeap d.year) (11 + 1) : ℤ) = yearLength (isLeap d.year) :=
      daysBefore_twelve _
    have none : daysBefore (isLeap (d.year + 1)) 0 = 0 := rfl
    rw [december] at behind last inMonth
    simp only [number, none, yearStart_succ, december]
    omega

end Date

end Stencil.Calendar
