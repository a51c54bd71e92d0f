import Stencil.Eval.Operator
import Stencil.Proofs.Calendar.Clock
import Stencil.Proofs.Calendar.Range
import Stencil.Proofs.Number.Integer

/-!
# Relational operators on dates

The relational operators compare two dates as texts, which begin with the name of the weekday, and a
date never compares with a number.  The main statement says when this agrees with the order of time:
for two dates exactly if the order of the texts does, and for a date and a number exactly if the
number is NaN.
-/

namespace Stencil

open Calendar (Instant)

/-- The relational operators answer alike for two pairs of operands. -/
def SameRelations (left right left' right' : Value) : Prop :=
  ∀ op ∈ [BinaryOp.lt, .le, .gt, .ge], ∀ rightText,
    op.apply left right rightText = op.apply left' right' rightText

/-- The relational operators answer alike exactly if the orders are the same. -/
theorem sameRelations_iff {left right left' right' : Value} :
    SameRelations left right left' right' ↔ left.order? right = left'.order? right' := by
  constructor
  · intro same
    have lt := same .lt (by simp) ""
    have le := same .le (by simp) ""
    have gt := same .gt (by simp) ""
    simp only [BinaryOp.apply, Except.ok.injEq, Value.bool.injEq] at lt le gt
    generalize left.order? right = order at *
    generalize left'.order? right' = order' at *
    revert lt le gt
    cases order with
    | none => cases order' with
      | none => simp
      | some ordering => cases ordering <;> simp
    | some ordering => cases order' with
      | none => cases ordering <;> simp
      | some ordering' => cases ordering <;> cases ordering' <;> simp
  · intro same op mem rightText
    simp only [List.mem_cons, List.not_mem_nil, or_false] at mem
    rcases mem with rfl | rfl | rfl | rfl
    all_goals simp only [BinaryOp.apply, same]

theorem StringMethod.order_eq_compare (s t : String) : StringMethod.order s t = compare s t :=
  rfl

namespace Value

theorem toPrimitive_date (t : Instant) : (date t).toPrimitive = string t.text := by
  simp [toPrimitive, isCompound, text]

/-- Two dates have the order of their written forms. -/
theorem order?_dates (a b : Instant) :
    (date a).order? (date b) = some (compare a.text b.text) := by
  rw [order?, toPrimitive_date, toPrimitive_date, ← StringMethod.order_eq_compare]

/-- The order of two numbers. -/
theorem order?_numbers (x y : Binary64) :
    (number x).order? (number y) =
      if x.lt y then some .lt
      else if y.lt x then some .gt
      else if x.beq y then some .eq
      else none :=
  rfl

theorem order?_numbers_eq_none_iff {x y : Binary64} :
    (number x).order? (number y) = none ↔ x.isNaN = true ∨ y.isNaN = true := by
  rw [order?_numbers]
  by_cases leftNaN : x.isNaN = true
  · simp [Binary64.lt, Binary64.beq, leftNaN]
  by_cases rightNaN : y.isNaN = true
  · simp [Binary64.lt, Binary64.beq, rightNaN]
  · rcases lt_trichotomy x.order y.order with less | same | greater
    · simp [Binary64.lt, leftNaN, rightNaN, less]
    · simp [Binary64.lt, Binary64.beq, leftNaN, rightNaN, same]
    · simp [Binary64.lt, leftNaN, rightNaN, greater, greater.not_gt]

/-- The written form of a date is not a number, so a date has no order with a number. -/
theorem order?_date_number (t : Instant) (n : Binary64) : (date t).order? (number n) = none := by
  have converted : (date t).order? (number n) =
      (number (Number.ofText t.text)).order? (number n) := by
    rw [order?, toPrimitive_date]
    rfl
  rw [converted, t.ofText_text, order?_numbers_eq_none_iff]
  exact .inl rfl

theorem order?_number_date (t : Instant) (n : Binary64) : (number n).order? (date t) = none := by
  have converted : (number n).order? (date t) =
      (number n).order? (number (Number.ofText t.text)) := by
    rw [order?, toPrimitive_date]
    rfl
  rw [converted, t.ofText_text, order?_numbers_eq_none_iff]
  exact .inr rfl

theorem order?_ints {m n : Int} (smallM : m.natAbs < 2 ^ 53) (smallN : n.natAbs < 2 ^ 53) :
    (int m).order? (int n) = some (compare m n) := by
  rw [int, int, order?_numbers, Binary64.lt_ofInt smallM smallN, Binary64.lt_ofInt smallN smallM]
  rcases lt_trichotomy m n with less | same | greater
  · simp [less, compare_lt_iff_lt.mpr less]
  · subst same
    simp [Binary64.beq_self, Binary64.ofInt_isNaN smallM]
  · simp [greater, greater.not_gt, compare_gt_iff_gt.mpr greater]

end Value

/-- When dates compare by time.  Two dates do exactly if their written forms are in the order of
time; those of one day are exactly if the dates do not differ in the fraction of one second only.
With a number a date does so exactly if that is NaN. -/
theorem relations_of_dates {a b : Instant} (inCalendarA : a.InCalendar)
    (inCalendarB : b.InCalendar) (n : Binary64) :
    ∃ x y, DateMethod.call? a "getTime" = some x ∧ DateMethod.call? b "getTime" = some y ∧
      (SameRelations (.date a) (.date b) x y ↔
        compare a.text b.text = compare a.millis b.millis) ∧
      (a.dayNumber = b.dayNumber → a.nanos < 1000000000 → b.nanos < 1000000000 →
        (SameRelations (.date a) (.date b) x y ↔ (a.seconds = b.seconds → a.millis = b.millis))) ∧
      (SameRelations (.date a) (.number n) x (.number n) ↔ n.isNaN = true) ∧
      (SameRelations (.number n) (.date a) (.number n) x ↔ n.isNaN = true) := by
  have smallA := inCalendarA.natAbs_millis_lt
  have smallB := inCalendarB.natAbs_millis_lt
  have isNumber : (Binary64.ofInt a.millis).isNaN = false := Binary64.ofInt_isNaN smallA
  have dates : SameRelations (.date a) (.date b) (.int a.millis) (.int b.millis) ↔
      compare a.text b.text = compare a.millis b.millis := by
    rw [sameRelations_iff, Value.order?_dates, Value.order?_ints smallA smallB, Option.some_inj]
  refine ⟨.int a.millis, .int b.millis, rfl, rfl, dates, ?_, ?_, ?_⟩
  · intro sameDay noLeapA noLeapB
    exact dates.trans (Instant.compare_text_iff sameDay noLeapA noLeapB)
  · rw [sameRelations_iff, Value.order?_date_number, eq_comm, Value.int,
      Value.order?_numbers_eq_none_iff, isNumber]
    simp
  · rw [sameRelations_iff, Value.order?_number_date, eq_comm, Value.int,
      Value.order?_numbers_eq_none_iff, isNumber]
    simp

/-- Midnight and 1:01:01.005 of one day compare by time, and midnight does not compare with 1. -/
theorem relations_of_dates_of_one_day :
    Instant.InCalendar ⟨0, 0⟩ ∧ Instant.InCalendar ⟨3661, 5000000⟩ ∧
      ∃ x y, DateMethod.call? ⟨0, 0⟩ "getTime" = some x ∧
        DateMethod.call? ⟨3661, 5000000⟩ "getTime" = some y ∧
        SameRelations (.date ⟨0, 0⟩) (.date ⟨3661, 5000000⟩) x y ∧
        ¬ SameRelations (.date ⟨0, 0⟩) (.number (Binary64.ofInt 1)) x
          (.number (Binary64.ofInt 1)) := by
  have inCalendarA : Instant.InCalendar ⟨0, 0⟩ := ⟨by decide, by decide, by decide⟩
  have inCalendarB : Instant.InCalendar ⟨3661, 5000000⟩ := ⟨by decide, by decide, by decide⟩
  rcases relations_of_dates inCalendarA inCalendarB (Binary64.ofInt 1) with
    ⟨x, y, left, right, -, day, number, -⟩
  refine ⟨inCalendarA, inCalendarB, x, y, left, right, ?_, ?_⟩
  · exact (day (by decide) (by decide) (by decide)).mpr (by decide)
  · rw [number]
    decide

/-- The first day of 1970, a Thursday, is not before the second, a Friday. -/
theorem apply_lt_following_days :
    DateMethod.call? ⟨0, 0⟩ "getTime" = some (.int 0) ∧
    DateMethod.call? ⟨86400, 0⟩ "getTime" = some (.int 86400000) ∧
    BinaryOp.lt.apply (.date ⟨0, 0⟩) (.date ⟨86400, 0⟩) "" = .ok (.bool false) ∧
    BinaryOp.lt.apply (.int 0) (.int 86400000) "" = .ok (.bool true) := by
  rcases Instant.exists_toList_text ⟨0, 0⟩ with ⟨_, thursday⟩
  rcases Instant.exists_toList_text ⟨86400, 0⟩ with ⟨_, friday⟩
  have texts : compare (Instant.mk 0 0).text (Instant.mk 86400 0).text = .gt := by
    rw [compare_gt_iff_gt, String.lt_iff_toList_lt, thursday, friday]
    exact List.cons_lt_cons_iff.mpr (.inl (by decide))
  have millis : compare (0 : Int) 86400000 = .lt := by decide
  refine ⟨rfl, rfl, ?_, ?_⟩
  · rw [BinaryOp.apply, Value.order?_dates, texts]
    rfl
  · rw [BinaryOp.apply, Value.order?_ints (by decide) (by decide), millis]
    rfl

end Stencil
