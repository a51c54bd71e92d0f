import Mathlib.Algebra.BigOperators.Group.List.Basic
import Stencil.Proofs.Calendar.Day
import Stencil.Proofs.Calendar.Range

/-!
# Dates from components

Components of any size add up to a count of milliseconds in unbounded arithmetic.  The date of the
components is computed with 64-bit words: components are clipped to words, spans of time are checked
as they are added.  A clipped day, hour, minute or second never passes the checks.  A clipped count
of milliseconds does, and the date is early by what was cut off.
-/

namespace Stencil

namespace Calendar

/-- The largest signed 64-bit word. -/
def largestWord : ℤ :=
  9223372036854775807

namespace Instant

variable {day second total sum n : ℤ} {nanos : ℕ} {spans : List ℤ} {t : Instant}

/-! ## Counts of milliseconds -/

theorem ofDay?_eq_some_iff :
    ofDay? day second nanos = some t ↔
      t = ⟨day * 86400 + second, nanos⟩ ∧ firstDay ≤ t.dayNumber ∧ t.dayNumber ≤ lastDay := by
  simp only [ofDay?, Bool.and_eq_true, decide_eq_true_eq]
  split
  · rename_i inside
    constructor
    · rintro ⟨rfl⟩
      exact ⟨rfl, inside⟩
    · rintro ⟨rfl, -⟩
      rfl
  · rename_i outside
    constructor
    · nofun
    · rintro ⟨rfl, inside⟩
      exact absurd inside outside

/-- The instant of a count of milliseconds is that many milliseconds after the start of 1970. -/
theorem millis_of_ofMillis? (made : ofMillis? n = some t) : t.millis = n := by
  rcases ofDay?_eq_some_iff.mp made with ⟨rfl, -⟩
  simp only [millis]
  omega

theorem exists_ofMillis? (first : firstDay ≤ n / 86400000) (last : n / 86400000 ≤ lastDay) :
    ∃ t, ofMillis? n = some t := by
  refine ⟨_, ofDay?_eq_some_iff.mpr ⟨rfl, ?_⟩⟩
  simp only [dayNumber]
  omega

/-! ## Clipped words -/

theorem clampWord_eq_self (small : (n.natAbs : ℤ) ≤ largestWord) : clampWord n = n := by
  rw [largestWord] at small
  rw [clampWord]
  omega

/-- A clipped count of units of more than a millisecond is too long to be added. -/
theorem clampWord_eq_self_of_short {unit shift : ℤ} (long : 1000 ≤ unit)
    (near : shift.natAbs ≤ 1) (short : (((clampWord n - shift) * unit).natAbs : ℤ) ≤ largestWord) :
    clampWord n = n := by
  have size : (clampWord n - shift).natAbs * 1000 ≤ ((clampWord n - shift) * unit).natAbs := by
    rw [Int.natAbs_mul]
    exact Nat.mul_le_mul_left _ (by omega)
  rw [largestWord] at short
  have inside : (clampWord n).natAbs < 9223372036854775807 := by omega
  simp only [clampWord] at inside ⊢
  omega

theorem clampWord_add_excess (short : ((clampWord n).natAbs : ℤ) ≤ largestWord) :
    clampWord n + max 0 (n - largestWord) = n := by
  simp only [clampWord, largestWord] at short ⊢
  omega

/-! ## Sums of spans -/

/-- A checked sum is the sum, and none of its spans is longer than the largest word. -/
theorem of_sumSpans? (added : sumSpans? total spans = some sum) :
    sum = total + spans.sum ∧ ∀ span ∈ spans, (span.natAbs : ℤ) ≤ largestWord := by
  induction spans generalizing total with
  | nil =>
      rw [sumSpans?, Option.some.injEq] at added
      rw [List.sum_nil]
      exact ⟨by omega, nofun⟩
  | cons span rest inductionHypothesis =>
      rw [sumSpans?] at added
      split at added
      · rename_i bounded
        simp only [Bool.and_eq_true, decide_eq_true_eq] at bounded
        rcases inductionHypothesis added with ⟨sum_eq, short⟩
        refine ⟨by rw [sum_eq, List.sum_cons, add_assoc], ?_⟩
        intro other mem
        rcases List.mem_cons.mp mem with rfl | later
        · rw [largestWord]
          omega
        · exact short other later
      · cases added

/-- Spans that fit into a word all together are added exactly. -/
theorem sumSpans?_eq_some
    (short : (total.natAbs + (spans.map Int.natAbs).sum : ℕ) ≤ largestWord) :
    sumSpans? total spans = some (total + spans.sum) := by
  induction spans generalizing total with
  | nil => rw [sumSpans?, List.sum_nil, add_zero]
  | cons span rest inductionHypothesis =>
      rw [List.map_cons, List.sum_cons] at short
      have later : sumSpans? (total + span) rest = some (total + span + rest.sum) :=
        inductionHypothesis (by omega)
      rw [largestWord] at short
      rw [sumSpans?, if_pos, later, List.sum_cons, add_assoc]
      rw [Bool.and_eq_true, decide_eq_true_eq, decide_eq_true_eq]
      omega

end Instant

/-- Year, month, day, hour, minute, second and millisecond, each a whole number of any size.  Months
count from zero and days from one. -/
structure Components where
  year : ℤ
  month : ℤ
  day : ℤ
  hour : ℤ
  minute : ℤ
  second : ℤ
  milli : ℤ
  deriving DecidableEq

namespace Components

/-- The year; the years 0 to 99 are those of the twentieth century. -/
def fullYear (c : Components) : ℤ :=
  if 0 ≤ c.year ∧ c.year ≤ 99 then c.year + 1900 else c.year

/-- The first day of the month.  A month outside the year carries into it. -/
def firstOfMonth (c : Components) : Date :=
  ⟨c.fullYear + c.month / 12, (c.month % 12).toNat, 1⟩

/-- Milliseconds since the start of 1970, in unbounded arithmetic. -/
def millis (c : Components) : ℤ :=
  86400000 * c.firstOfMonth.number + 86400000 * (c.day - 1) + 3600000 * c.hour +
    60000 * c.minute + 1000 * c.second + c.milli

/-- The instant that is made of the components. -/
def instant? (c : Components) : Option Instant :=
  Instant.ofComponents? c.year c.month c.day c.hour c.minute c.second c.milli

/-- What clipping cuts off the milliseconds. -/
def excess (c : Components) : ℤ :=
  max 0 (c.milli - largestWord)

/-- The spans of time behind the start of the month, in milliseconds. -/
def spans (c : Components) : List ℤ :=
  [(c.day - 1) * 86400000, c.hour * 3600000, c.minute * 60000, c.second * 1000, c.milli]

/-- Components that are not refused for their size: the month is one of the calendar, and the spans
of time behind its start fit into a word all together. -/
structure InReach (c : Components) : Prop where
  year : c.fullYear.natAbs ≤ 262143
  month : c.month.natAbs ≤ 262143 * 12
  first : Instant.firstDay ≤ c.firstOfMonth.number
  last : c.firstOfMonth.number ≤ Instant.lastDay
  short : ((c.spans.map Int.natAbs).sum : ℕ) ≤ largestWord

variable {c : Components} {t : Instant}

theorem millis_eq (c : Components) :
    c.millis = c.firstOfMonth.number * 86400000 + c.spans.sum := by
  simp only [millis, spans, List.sum_cons, List.sum_nil]
  omega

/-- Components within their usual ranges are short spans. -/
theorem short_of_usual (day : (c.day - 1).natAbs ≤ 31) (hour : c.hour.natAbs ≤ 24)
    (minute : c.minute.natAbs ≤ 60) (second : c.second.natAbs ≤ 60)
    (milli : c.milli.natAbs ≤ 2000) : ((c.spans.map Int.natAbs).sum : ℕ) ≤ largestWord := by
  simp only [spans, List.map_cons, List.map_nil, List.sum_cons, List.sum_nil, largestWord]
  omega

/-- The spans that are added, once the components are clipped to words. -/
def clippedSpans (c : Components) : List ℤ :=
  [(Instant.clampWord c.day - 1) * 86400000, Instant.clampWord c.hour * 3600000,
    Instant.clampWord c.minute * 60000, Instant.clampWord c.second * 1000,
    Instant.clampWord c.milli]

theorem instant?_eq (c : Components) :
    c.instant? =
      if c.fullYear.natAbs > 262143 || c.month.natAbs > 262143 * 12 then none
      else if c.firstOfMonth.number < Instant.firstDay ||
          Instant.lastDay < c.firstOfMonth.number then none
      else (Instant.sumSpans? 0 c.clippedSpans).bind fun span =>
        Instant.ofMillis? (c.firstOfMonth.number * 86400000 + span) := by
  have year : (if (0 ≤ c.year && c.year ≤ 99) = true then c.year + 1900 else c.year) =
      c.fullYear := by
    simp only [fullYear, Bool.and_eq_true, decide_eq_true_eq]
  have month : (⟨(c.fullYear * 12 + c.month) / 12, ((c.fullYear * 12 + c.month) % 12).toNat, 1⟩ :
      Date) = c.firstOfMonth := by
    rw [firstOfMonth, show (c.fullYear * 12 + c.month) / 12 = c.fullYear + c.month / 12 by omega,
      show (c.fullYear * 12 + c.month) % 12 = c.month % 12 by omega]
  simp only [instant?, Instant.ofComponents?, year, month]
  rfl

/-- Clipped spans that are short enough to be added are the spans themselves, except that the
milliseconds may have lost what exceeds a word. -/
theorem sum_clippedSpans (short : ∀ span ∈ c.clippedSpans, (span.natAbs : ℤ) ≤ largestWord) :
    c.clippedSpans.sum + c.excess = c.spans.sum := by
  simp only [clippedSpans, List.forall_mem_cons] at short
  rcases short with ⟨day, hour, minute, second, milli, -⟩
  have unshifted (n : ℤ) : n = n - 0 := (sub_zero n).symm
  have dayKept := Instant.clampWord_eq_self_of_short (by decide) (by decide) day
  rw [unshifted (Instant.clampWord c.hour)] at hour
  rw [unshifted (Instant.clampWord c.minute)] at minute
  rw [unshifted (Instant.clampWord c.second)] at second
  have hourKept := Instant.clampWord_eq_self_of_short (by decide) (by decide) hour
  have minuteKept := Instant.clampWord_eq_self_of_short (by decide) (by decide) minute
  have secondKept := Instant.clampWord_eq_self_of_short (by decide) (by decide) second
  have milliKept := Instant.clampWord_add_excess milli
  simp only [clippedSpans, spans, excess, List.sum_cons, List.sum_nil, dayKept, hourKept,
    minuteKept, secondKept]
  omega

/-- Whenever components make an instant, it is early by what clipping cuts off the milliseconds. -/
theorem millis_of_instant? (made : c.instant? = some t) : t.millis + c.excess = c.millis := by
  rw [instant?_eq] at made
  split_ifs at made
  rcases Option.bind_eq_some_iff.mp made with ⟨span, added, counted⟩
  rcases Instant.of_sumSpans? added with ⟨sum_eq, short⟩
  rw [Instant.millis_of_ofMillis? counted, millis_eq, ← sum_clippedSpans short, sum_eq]
  omega

/-- Components in reach make the instant of their milliseconds. -/
theorem InReach.instant?_eq (reach : c.InReach) : c.instant? = Instant.ofMillis? c.millis := by
  have short := reach.short
  have kept : c.clippedSpans = c.spans := by
    simp only [spans, List.map_cons, List.map_nil, List.sum_cons, List.sum_nil] at short
    have day : (c.day.natAbs : ℤ) ≤ largestWord := by rw [largestWord] at *; omega
    have hour : (c.hour.natAbs : ℤ) ≤ largestWord := by omega
    have minute : (c.minute.natAbs : ℤ) ≤ largestWord := by omega
    have second : (c.second.natAbs : ℤ) ≤ largestWord := by omega
    have milli : (c.milli.natAbs : ℤ) ≤ largestWord := by omega
    rw [clippedSpans, spans, Instant.clampWord_eq_self day, Instant.clampWord_eq_self hour,
      Instant.clampWord_eq_self minute, Instant.clampWord_eq_self second,
      Instant.clampWord_eq_self milli]
  have year := reach.year
  have month := reach.month
  have first := reach.first
  have last := reach.last
  rw [Components.instant?_eq, kept, Instant.sumSpans?_eq_some (by simpa using short),
    if_neg (by simp only [Bool.or_eq_true, decide_eq_true_eq]; omega),
    if_neg (by simp only [Bool.or_eq_true, decide_eq_true_eq]; omega), Option.bind_some, millis_eq,
    zero_add]

end Components

end Calendar

end Stencil
