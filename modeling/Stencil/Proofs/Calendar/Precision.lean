import Stencil.Eval.DateMethod
import Stencil.Proofs.Calendar.Components

/-!
# Whole milliseconds

Time is told in whole milliseconds, while an instant may have a finer fraction or lie in a leap
second.  The instants that a count of milliseconds names are those that do neither.  What clocks and
calendars show of an instant is all there is of it without the finer fraction.  A text may denote
any of them.

The calendar and the clock take an instant apart: the date counts the days and the clock the rest of
the day.  The parts add up to the instant again, so that a whole instant is made of them.
-/

namespace Stencil

namespace Calendar.Instant

variable {t u : Instant} {n : ℤ}

/-- An instant at a whole number of milliseconds and in no leap second. -/
structure IsWhole (t : Instant) : Prop where
  noLeap : t.nanos < 1000000000
  noFiner : t.nanos % 1000000 = 0

/-- An instant without what is finer than a millisecond. -/
def wholeMillis (t : Instant) : Instant :=
  ⟨t.seconds, t.nanos / 1000000 * 1000000⟩

theorem wholeMillis_eq_self_iff : t.wholeMillis = t ↔ t.nanos % 1000000 = 0 := by
  constructor
  · intro same
    have nanos := congrArg Instant.nanos same
    simp only [wholeMillis] at nanos
    omega
  · intro noFiner
    exact congrArg (Instant.mk t.seconds) (by omega)

@[simp]
theorem milliOfSecond_wholeMillis (t : Instant) : t.wholeMillis.milliOfSecond = t.milliOfSecond :=
  Nat.mul_div_cancel _ (by decide)

@[simp]
theorem millis_wholeMillis (t : Instant) : t.wholeMillis.millis = t.millis := by
  simp only [millis, wholeMillis]
  omega

@[simp]
theorem shownSecond_wholeMillis (t : Instant) : t.wholeMillis.shownSecond = t.shownSecond := by
  have finer : t.nanos / 1000000 * 1000000 / 1000000000 = t.nanos / 1000000000 := by omega
  exact congrArg (t.second + ·) finer

@[simp]
theorem clock_wholeMillis (t : Instant) : t.wholeMillis.clock = t.clock := by
  rw [clock, shownSecond_wholeMillis]
  rfl

/-! ## Counts of milliseconds -/

theorem isWhole_of_ofMillis? (made : ofMillis? n = some t) : t.IsWhole := by
  rcases ofDay?_eq_some_iff.mp made with ⟨rfl, -⟩
  constructor
  · dsimp only
    omega
  · exact Nat.mul_mod_left _ _

/-- The milliseconds of an instant in no leap second name it, without its finer fraction. -/
theorem ofMillis?_millis (inCalendar : t.InCalendar) (noLeap : t.nanos < 1000000000) :
    ofMillis? t.millis = some t.wholeMillis := by
  have fields : t.wholeMillis =
      ⟨0 * 86400 + t.millis / 1000, (t.millis % 1000).toNat * 1000000⟩ := by
    simp only [millis, wholeMillis, mk.injEq]
    omega
  exact ofDay?_eq_some_iff.mpr ⟨fields, inCalendar.first, inCalendar.last⟩

/-- A count of milliseconds names exactly the whole instants of the calendar. -/
theorem ofMillis?_millis_eq_self_iff (inCalendar : t.InCalendar) :
    ofMillis? t.millis = some t ↔ t.IsWhole := by
  constructor
  · exact isWhole_of_ofMillis?
  · intro whole
    rw [ofMillis?_millis inCalendar whole.noLeap, wholeMillis_eq_self_iff.mpr whole.noFiner]

theorem IsWhole.eq_of_millis_eq (first : t.IsWhole) (second : u.IsWhole)
    (same : t.millis = u.millis) : t = u := by
  have firstNanos := first.noFiner
  have firstLeap := first.noLeap
  have secondNanos := second.noFiner
  have secondLeap := second.noLeap
  rcases t with ⟨seconds, nanos⟩
  rcases u with ⟨seconds', nanos'⟩
  simp only [millis, mk.injEq] at *
  omega

/-- An instant is in no leap second exactly if its milliseconds are those of a second. -/
theorem milliOfSecond_lt_iff : t.milliOfSecond < 1000 ↔ t.nanos < 1000000000 := by
  rw [milliOfSecond]
  omega

theorem isWhole_of_ofComponents? {year month day hour minute second milli : ℤ}
    (made : ofComponents? year month day hour minute second milli = some t) : t.IsWhole := by
  unfold ofComponents? at made
  simp only at made
  split_ifs at made
  all_goals
    rcases Option.bind_eq_some_iff.mp made with ⟨_, _, counted⟩
    exact isWhole_of_ofMillis? counted

end Calendar.Instant

/-! ## Readings -/

namespace Calendar

variable {r : Reading} {t : Instant}

/-- A reading without digits behind the millisecond and without a sixtieth second. -/
structure Reading.IsWhole (r : Reading) : Prop where
  noLeap : r.second ≠ 60
  noFiner : r.nanos % 1000000 = 0

/-- Only the second 60 and digits behind the millisecond make an instant that is not whole. -/
theorem isWhole_iff_of_instant? (fraction : r.HasFraction) (made : r.instant? = some t) :
    t.IsWhole ↔ r.IsWhole := by
  have nanos : t.nanos = r.nanos + if r.second = 60 then 1000000000 else 0 := by
    unfold Reading.instant? at made
    simp only at made
    split at made
    · exact congrArg Instant.nanos (Instant.ofDay?_eq_some_iff.mp made).1
    · cases made
  rw [Reading.HasFraction] at fraction
  constructor
  · rintro ⟨noLeap, noFiner⟩
    by_cases leap : r.second = 60
    · rw [if_pos leap] at nanos
      omega
    · rw [if_neg leap] at nanos
      exact ⟨leap, by omega⟩
  · rintro ⟨noLeap, noFiner⟩
    rw [if_neg noLeap] at nanos
    exact ⟨by omega, by omega⟩

/-- The reading of a text in one form, if it denotes an instant. -/
def acceptedAs? (form : Reader Reading) (s : List Char) : Option Reading := do
  let (reading, rest) ← form s
  if rest.isEmpty && reading.instant?.isSome then some reading else none

/-- The reading of a text in the first form that accepts it. -/
def accepted? (s : String) : Option Reading :=
  forms.findSome? (acceptedAs? · (Text.trim s.toList))

theorem acceptedAs?_eq_some_iff {form : Reader Reading} {s : List Char} :
    acceptedAs? form s = some r ↔ form s = some (r, []) ∧ r.instant?.isSome := by
  rw [acceptedAs?]
  rcases form s with _ | ⟨reading, _ | ⟨c, rest⟩⟩
  · simp
  · simp only [Option.bind_eq_bind, Option.bind_some, List.isEmpty_nil, Bool.true_and,
      Option.ite_none_right_eq_some, Option.some.injEq, Prod.mk.injEq, and_true]
    constructor
    · rintro ⟨denotes, rfl⟩
      exact ⟨rfl, denotes⟩
    · rintro ⟨rfl, denotes⟩
      exact ⟨denotes, rfl⟩
  · simp

theorem readAs?_eq (form : Reader Reading) (s : List Char) :
    readAs? form s = (acceptedAs? form s).bind Reading.instant? := by
  rw [readAs?, acceptedAs?]
  rcases form s with _ | ⟨reading, rest⟩
  · rfl
  · cases rest <;> cases made : reading.instant? <;> simp [made]

/-- A text denotes the instant of its reading in the first form that accepts it. -/
theorem read?_eq (s : String) : read? s = (accepted? s).bind Reading.instant? := by
  rw [read?, accepted?]
  generalize Text.trim s.toList = text
  induction forms with
  | nil => rfl
  | cons form rest inductionHypothesis =>
      rw [List.findSome?_cons, List.findSome?_cons, readAs?_eq]
      cases accepted : acceptedAs? form text with
      | none => exact inductionHypothesis
      | some reading =>
          have denotes := (acceptedAs?_eq_some_iff.mp accepted).2
          rcases Option.isSome_iff_exists.mp denotes with ⟨t, made⟩
          simp only [Option.bind_some, made]

theorem hasFraction_of_accepted? {s : String} (accepted : accepted? s = some r) :
    r.HasFraction := by
  rcases List.exists_of_findSome?_eq_some accepted with ⟨form, mem, inForm⟩
  exact yields_of_mem_forms mem _ _ _ (acceptedAs?_eq_some_iff.mp inForm).1

end Calendar

open Calendar (Instant)

/-- No method of a date sees what is finer than a millisecond. -/
theorem DateMethod.call?_wholeMillis (t : Instant) : call? t.wholeMillis = call? t := by
  have iso : t.wholeMillis.isoText = t.isoText := by
    rw [Instant.isoText, Instant.clock_wholeMillis, Instant.milliOfSecond_wholeMillis]
    rfl
  have time : t.wholeMillis.timeText = t.timeText := by
    rw [Instant.timeText, Instant.clock_wholeMillis]
    rfl
  have header : t.wholeMillis.headerText = t.headerText := by
    rw [Instant.headerText, Instant.clock_wholeMillis]
    rfl
  have all : t.wholeMillis.text = t.text := by
    rw [Instant.text, time]
    rfl
  funext name
  unfold call?
  rw [iso, time, header, all, Instant.millis_wholeMillis, Instant.milliOfSecond_wholeMillis]
  rfl

/-! ## The parts of an instant -/

namespace Calendar.Instant

variable {t : Instant}

theorem number_date (t : Instant) : t.date.number = t.dayNumber :=
  Date.number_ofNumber t.dayNumber

theorem isValid_date (t : Instant) : t.date.isValid :=
  Date.isValid_ofNumber t.dayNumber

/-- The years of the calendar. -/
theorem InCalendar.year_bounds (inCalendar : t.InCalendar) :
    -262143 ≤ t.date.year ∧ t.date.year ≤ 262142 := by
  have first := inCalendar.first
  have last := inCalendar.last
  rcases Date.number_bounds t.isValid_date with ⟨low, high⟩
  rw [number_date] at low high
  rw [firstDay] at first
  rw [lastDay] at last
  constructor
  · by_contra early
    have := yearStart_le_of_le (show t.date.year + 1 ≤ -262143 by omega)
    omega
  · by_contra late
    have := yearStart_le_of_le (show 262143 ≤ t.date.year by omega)
    omega

theorem date_bounds (t : Instant) : t.date.month < 12 ∧ 1 ≤ t.date.day ∧ t.date.day ≤ 31 := by
  rcases Date.isValid_iff.mp t.isValid_date with ⟨inYear, first, last⟩
  exact ⟨inYear, first, last.trans (monthLength_le _ _)⟩

theorem InCalendar.milliOfSecond_lt (inCalendar : t.InCalendar) : t.milliOfSecond < 2000 :=
  (Nat.div_lt_iff_lt_mul (by decide)).mpr inCalendar.nanos

/-- The clock divides the seconds of the day. -/
theorem secondOfDay_eq (t : Instant) :
    t.secondOfDay = t.hour * 3600 + t.minute * 60 + t.second ∧ t.hour < 24 ∧ t.minute < 60 ∧
      t.second < 60 := by
  simp only [hour, minute, second, secondOfDay]
  omega

/-- The parts of an instant as components. -/
def parts (t : Instant) : Components :=
  ⟨t.date.year, t.date.month, t.date.day, t.hour, t.minute, t.second, t.milliOfSecond⟩

variable (notShort : ¬ (0 ≤ t.date.year ∧ t.date.year ≤ 99))
include notShort

theorem fullYear_parts : t.parts.fullYear = t.date.year :=
  if_neg notShort

theorem firstOfMonth_parts : t.parts.firstOfMonth = ⟨t.date.year, t.date.month, 1⟩ := by
  rcases t.date_bounds with ⟨inYear, -⟩
  rw [Components.firstOfMonth, fullYear_parts notShort]
  simp only [parts, Date.mk.injEq, and_true]
  omega

/-- The parts of an instant add up to its milliseconds. -/
theorem millis_parts : t.parts.millis = t.millis := by
  have day := t.number_date
  have seconds := t.secondOfDay_eq.1
  rw [Components.millis, firstOfMonth_parts notShort]
  simp only [Date.number, parts, millis, milliOfSecond, dayNumber, secondOfDay] at *
  omega

theorem inReach_parts (inCalendar : t.InCalendar) : t.parts.InReach := by
  rcases inCalendar.year_bounds with ⟨yearLow, yearHigh⟩
  rcases Date.isValid_iff.mp t.isValid_date with ⟨inYear, first, last⟩
  have inMonth : Date.isValid ⟨t.date.year, t.date.month, 1⟩ :=
    Date.isValid_iff.mpr ⟨inYear, le_refl 1, first.trans last⟩
  have number := t.number_date
  have lastDate := inCalendar.last
  constructor
  · rw [fullYear_parts notShort]
    omega
  · simp only [parts]
    omega
  · rw [firstOfMonth_parts notShort]
    exact (yearStart_le_of_le yearLow).trans (Date.number_bounds inMonth).1
  · rw [firstOfMonth_parts notShort]
    simp only [Date.number] at number ⊢
    omega
  · rcases t.date_bounds with ⟨-, -, day⟩
    rcases t.secondOfDay_eq with ⟨-, hour, minute, second⟩
    apply Components.short_of_usual
    · change ((t.date.day : ℤ) - 1).natAbs ≤ 31
      omega
    · exact hour.le
    · exact minute.le
    · exact second.le
    · exact inCalendar.milliOfSecond_lt.le

/-- A whole instant is made of its parts. -/
theorem IsWhole.instant?_parts (whole : t.IsWhole) (inCalendar : t.InCalendar) :
    t.parts.instant? = some t := by
  rw [(inReach_parts notShort inCalendar).instant?_eq, millis_parts notShort]
  exact (ofMillis?_millis_eq_self_iff inCalendar).mpr whole

end Calendar.Instant

end Stencil
