import Mathlib.Algebra.Group.Nat.Defs
import Mathlib.Data.List.TakeWhile
import Stencil.Calendar.Reading
import Stencil.Eval.DateMethod

/-!
# The range of dates

Every instant that is read or computed lies on a day of the calendar and has a fraction of less
than two seconds, so that its milliseconds are a number of 53 bits.
-/

namespace Stencil.Calendar

open Reader

namespace Instant

/-- Instants of days that have a date.  The fraction exceeds a second in leap seconds only. -/
structure InCalendar (t : Instant) : Prop where
  first : firstDay ≤ t.dayNumber
  last : t.dayNumber ≤ lastDay
  nanos : t.nanos < 2000000000

theorem InCalendar.natAbs_millis_lt {t : Instant} (inCalendar : t.InCalendar) :
    t.millis.natAbs < 2 ^ 53 := by
  have first := inCalendar.first
  have last := inCalendar.last
  have nanos := inCalendar.nanos
  simp only [firstDay, lastDay, yearStart, dayNumber] at first last
  simp only [millis]
  omega

theorem inCalendar_of_ofDay? {day second : Int} {nanos : Nat} {t : Instant}
    (made : ofDay? day second nanos = some t) (fraction : nanos < 2000000000) : t.InCalendar := by
  unfold ofDay? at made
  simp only at made
  split at made
  · rename_i range
    rcases Option.some.inj made with rfl
    simp only [Bool.and_eq_true, decide_eq_true_eq] at range
    exact ⟨range.1, range.2, fraction⟩
  · cases made

theorem inCalendar_of_ofMillis? {n : Int} {t : Instant} (made : ofMillis? n = some t) :
    t.InCalendar :=
  inCalendar_of_ofDay? made (by omega)

theorem inCalendar_of_ofComponents? {year month day hour minute second milli : Int} {t : Instant}
    (made : ofComponents? year month day hour minute second milli = some t) :
    t.InCalendar := by
  unfold ofComponents? at made
  simp only at made
  split_ifs at made
  all_goals
    rcases Option.bind_eq_some_iff.mp made with ⟨_, _, millis⟩
    exact inCalendar_of_ofMillis? millis

end Instant

/-! ## Readers -/

/-- Whatever a reader reads has a property. -/
def Reader.Yields {α : Type} (reader : Reader α) (p : α → Prop) : Prop :=
  ∀ s a rest, reader s = some (a, rest) → p a

theorem Reader.Yields.bind {α β : Type} {reader : Reader α} {next : α → Reader β} {p : α → Prop}
    {q : β → Prop} (yields : reader.Yields p) (yieldsNext : ∀ a, p a → (next a).Yields q) :
    Reader.Yields (reader >>= next) q := by
  intro s b rest read
  rcases Option.bind_eq_some_iff.mp read with ⟨⟨a, s'⟩, first, second⟩
  exact yieldsNext a (yields s a s' first) s' b rest second

theorem Reader.Yields.andThen {α β : Type} {reader : Reader α} {next : α → Reader β}
    {q : β → Prop} (yieldsNext : ∀ a, (next a).Yields q) : Reader.Yields (reader >>= next) q :=
  Reader.Yields.bind (p := fun _ => True) (fun _ _ _ _ => trivial) fun a _ => yieldsNext a

theorem Reader.Yields.pure {α : Type} {a : α} {p : α → Prop} (holds : p a) :
    Reader.Yields (Pure.pure a : Reader α) p := by
  intro s b rest same
  rcases Prod.mk.inj (Option.some.inj same) with ⟨rfl, -⟩
  exact holds

theorem Reader.Yields.failure {α : Type} {p : α → Prop} :
    Reader.Yields (Alternative.failure : Reader α) p := by
  intro s b rest same
  cases same

/-! ## Fractions -/

theorem digitValue?_lt_of_isDigit {c : Char} (isDigit : Text.isDigit c = true) :
    (Text.digitValue? c).getD 0 < 10 := by
  rw [Text.digitValue?, if_pos isDigit, Option.getD_some]
  simp only [Text.isDigit, Bool.and_eq_true, decide_eq_true_eq] at isDigit
  omega

theorem foldl_digits_lt {digits : List Char} (areDigits : ∀ c ∈ digits, Text.isDigit c = true)
    {n k : Nat} (small : n < 10 ^ k) :
    digits.foldl (fun n c => n * 10 + (Text.digitValue? c).getD 0) n <
      10 ^ (k + digits.length) := by
  induction digits generalizing n k with
  | nil => exact small
  | cons c digits ih =>
      have digit := digitValue?_lt_of_isDigit (areDigits c List.mem_cons_self)
      have next : n * 10 + (Text.digitValue? c).getD 0 < 10 ^ (k + 1) := by
        rw [Nat.pow_succ]
        omega
      have rest := ih (fun other mem => areDigits other (List.mem_cons_of_mem _ mem)) next
      rwa [Nat.add_assoc, Nat.add_comm 1] at rest

theorem yields_fraction : fraction.Yields (· < 1000000000) := by
  intro s n rest read
  unfold fraction at read
  simp only at read
  split at read
  · cases read
  · rcases Prod.mk.inj (Option.some.inj read) with ⟨rfl, -⟩
    have areDigits : ∀ c ∈ (s.takeWhile Text.isDigit).take 9, Text.isDigit c = true :=
      fun c mem => List.mem_takeWhile_imp (List.mem_of_mem_take mem)
    have length : ((s.takeWhile Text.isDigit).take 9).length ≤ 9 := List.length_take_le 9 _
    generalize (s.takeWhile Text.isDigit).take 9 = kept at *
    have small : Text.ofDigits 10 kept < 10 ^ (0 + kept.length) :=
      foldl_digits_lt areDigits (k := 0) (by omega)
    calc
      Text.ofDigits 10 kept * Nat.pow 10 (9 - kept.length)
          < 10 ^ (0 + kept.length) * 10 ^ (9 - kept.length) :=
        Nat.mul_lt_mul_of_pos_right small (Nat.pow_pos (by omega))
      _ = 10 ^ 9 := by rw [← Nat.pow_add]; congr 1; omega

theorem yields_optionalFraction : optionalFraction.Yields (· < 1000000000) := by
  unfold optionalFraction
  refine .andThen fun _ => ?_
  split
  · exact .andThen fun _ => yields_fraction
  · exact .pure (by omega)

/-! ## Forms -/

/-- Readings whose fraction is less than a second. -/
def Reading.HasFraction (r : Reading) : Prop :=
  r.nanos < 1000000000

theorem hasFraction_of_zero {r : Reading} (zero : r.nanos = 0) : r.HasFraction := by
  rw [Reading.HasFraction, zero]
  omega

theorem yields_timestamp : timestamp.Yields Reading.HasFraction := by
  unfold timestamp
  repeat' first
    | refine Reader.Yields.bind yields_optionalFraction fun _ _ => ?_
    | refine Reader.Yields.andThen fun _ => ?_
    | split
    | exact Reader.Yields.failure
    | exact Reader.Yields.pure (by assumption)
    | dsimp only

theorem yields_plainDate : plainDate.Yields Reading.HasFraction := by
  unfold plainDate
  iterate 5 refine .andThen fun _ => ?_
  exact .pure (hasFraction_of_zero rfl)

theorem yields_withClock {r : Reading} (fraction : r.HasFraction) :
    (withClock r).Yields Reading.HasFraction := by
  unfold withClock
  iterate 3 refine .andThen fun _ => ?_
  exact .pure fraction

theorem yields_withSeconds {r : Reading} (fraction : r.HasFraction) :
    (withSeconds r).Yields Reading.HasFraction := by
  unfold withSeconds
  iterate 2 refine .andThen fun _ => ?_
  exact .pure fraction

theorem yields_mailDate : mailDate.Yields Reading.HasFraction := by
  unfold mailDate
  repeat' first
    | refine Reader.Yields.andThen fun _ => ?_
    | split
    | exact Reader.Yields.pure (hasFraction_of_zero rfl)

theorem yields_of_mem_forms {form : Reader Reading} (mem : form ∈ forms) :
    form.Yields Reading.HasFraction := by
  simp only [forms, localForms, List.cons_append, List.nil_append, List.mem_cons,
    List.not_mem_nil, or_false] at mem
  rcases mem with rfl | rfl | rfl | rfl | rfl | rfl
  · exact yields_timestamp
  · exact yields_plainDate
  · refine .bind yields_plainDate fun r fraction => .andThen fun _ => ?_
    refine .bind (yields_withClock fraction) fun r fraction => ?_
    refine .bind (yields_withSeconds fraction) fun r fraction => ?_
    exact .bind yields_optionalFraction fun n small => .pure small
  · refine .bind yields_plainDate fun r fraction => .andThen fun _ => ?_
    exact .bind (yields_withClock fraction) fun r fraction => yields_withSeconds fraction
  · refine .bind yields_plainDate fun r fraction => .andThen fun _ => ?_
    exact yields_withClock fraction
  · exact yields_mailDate

theorem inCalendar_of_instant? {r : Reading} {t : Instant} (fraction : r.HasFraction)
    (made : r.instant? = some t) : t.InCalendar := by
  unfold Reading.HasFraction at fraction
  unfold Reading.instant? at made
  simp only at made
  split at made
  · refine Instant.inCalendar_of_ofDay? made ?_
    split <;> omega
  · cases made

/-- Every made that a text is read as is one of the calendar. -/
theorem inCalendar_of_read? {s : String} {t : Instant} (read : read? s = some t) :
    t.InCalendar := by
  rcases List.exists_of_findSome?_eq_some read with ⟨form, mem, readAs⟩
  unfold readAs? at readAs
  rcases Option.bind_eq_some_iff.mp readAs with ⟨⟨r, rest⟩, reading, instant⟩
  simp only at instant
  split at instant
  · exact inCalendar_of_instant? (yields_of_mem_forms mem _ _ _ reading) instant
  · cases instant

/-- Every date that is constructed is one of the calendar, if the dates that it may be a copy of
are. -/
theorem inCalendar_of_construct? {now t : Instant} {args : Arguments} (nowIn : now.InCalendar)
    (argsIn : ∀ u, Value.date u ∈ args → u.InCalendar)
    (constructed : DateMethod.construct? now args = some t) : t.InCalendar := by
  unfold DateMethod.construct? at constructed
  split at constructed
  · rcases Option.some.inj constructed with rfl
    exact nowIn
  · rcases Option.some.inj constructed with rfl
    exact argsIn _ List.mem_cons_self
  · exact inCalendar_of_read? constructed
  · simp only at constructed
    split at constructed
    · exact Instant.inCalendar_of_ofMillis? constructed
    · cases constructed
  · rcases Option.bind_eq_some_iff.mp constructed with ⟨given, -, components⟩
    split at components
    · exact Instant.inCalendar_of_ofComponents? components
    · cases components

end Stencil.Calendar
