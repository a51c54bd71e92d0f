import Stencil.Number.Fixed
import Stencil.Proofs.Number.Digits
import Stencil.Proofs.Number.Integer

/-!
# Whole numbers in a radix

A whole number is written in a radix by its digits without superfluous zeros, behind a minus sign if
it is below zero.  A text writes at most one number.  So the forms of the numbers beyond the cap,
which are those of the cap itself, write none of them.
-/

namespace Stencil

namespace Number

variable {radix d : ℕ} {m n : ℤ} {text : List Char}

/-! ## Digits of a large base -/

theorem digitValue?_digitChar_of_lt (small : d < 36) :
    Text.digitValue? (digitChar d) = some d := by
  by_cases decimal : d < 10
  · exact digitValue?_digitChar decimal
  · have code : (digitChar d).toNat = 87 + d := by
      rw [digitChar, if_neg decimal, Text.toNat_ofNat (.inl (by omega))]
    have noDigit : Text.isDigit (digitChar d) = false := by
      rw [Text.isDigit, code, Bool.and_eq_false_iff, decide_eq_false_iff_not,
        decide_eq_false_iff_not]
      omega
    rw [Text.digitValue?, noDigit, code, if_neg (by decide), if_neg, if_pos,
      Nat.add_sub_cancel_left]
    · rw [Bool.and_eq_true, decide_eq_true_eq, decide_eq_true_eq]
      omega
    · rw [Bool.and_eq_true, decide_eq_true_eq, decide_eq_true_eq]
      omega

/-- Digits as characters spell the number that the digits stand for. -/
theorem ofDigits_radix_map_digitChar (radix : ℕ) {digits : List ℕ} (small : ∀ d ∈ digits, d < 36) :
    Text.ofDigits radix (digits.map digitChar) = Nat.ofDigits radix digits.reverse := by
  induction digits using List.reverseRecOn with
  | nil => rfl
  | append_singleton digits d inductionHypothesis =>
      have last : d < 36 := small d (List.mem_append_right _ List.mem_cons_self)
      have front := inductionHypothesis fun e mem => small e (List.mem_append_left _ mem)
      rw [List.map_append, Text.ofDigits, List.foldl_append, ← Text.ofDigits, front,
        List.reverse_append, List.reverse_singleton, List.singleton_append, Nat.ofDigits_cons]
      simp only [List.map_cons, List.map_nil, List.foldl_cons, List.foldl_nil,
        digitValue?_digitChar_of_lt last, Option.getD_some]
      ring

/-- The digits of a positive number are those of its positional representation: they are below the
base, do not begin with zero and stand for the number. -/
theorem digits_of_positive {n : ℕ} (several : 1 < radix) (positive : 0 < n) :
    (∀ d ∈ digits radix n, d < radix) ∧ (digits radix n).head? ≠ some 0 ∧
      Nat.ofDigits radix (digits radix n).reverse = n := by
  rw [digits_eq several positive, List.reverse_reverse, List.head?_reverse]
  refine ⟨?_, ?_, Nat.ofDigits_digits radix n⟩
  · intro d mem
    exact Nat.digits_lt_base several (List.mem_reverse.mp mem)
  · intro zero
    have nonempty : Nat.digits radix n ≠ [] := Nat.digits_ne_nil_iff_ne_zero.mpr positive.ne'
    apply Nat.getLast_digit_ne_zero radix positive.ne'
    rw [List.getLast?_eq_some_getLast nonempty] at zero
    exact Option.some.inj zero

/-! ## Written whole numbers -/

/-- A text that writes a whole number in a radix.  Zero is the one digit `0`.  Any other number has
digits below the radix, which do not begin with zero and stand for its size, behind a minus sign if
the number is below zero. -/
inductive WritesInRadix (radix : ℕ) : ℤ → List Char → Prop
  | zero : WritesInRadix radix 0 ['0']
  | signed {n : ℤ} {digits : List ℕ} (nonzero : n ≠ 0) (small : ∀ d ∈ digits, d < radix)
      (leading : digits.head? ≠ some 0) (value : Nat.ofDigits radix digits.reverse = n.natAbs) :
      WritesInRadix radix n ((if n < 0 then ['-'] else []) ++ digits.map digitChar)

theorem WritesInRadix.ofDigits_eq (writes : WritesInRadix radix n text) (bounded : radix ≤ 36) :
    Text.ofDigits radix text = n.natAbs := by
  cases writes with
  | zero =>
      rw [Text.ofDigits, List.foldl_cons, Nat.zero_mul, Nat.zero_add]
      rfl
  | @signed _ digits nonzero small leading value =>
      have spelled := ofDigits_radix_map_digitChar radix fun d mem => (small d mem).trans_le bounded
      rw [← value, ← spelled]
      split
      · -- The sign counts as a digit zero in front.
        rw [List.singleton_append, Text.ofDigits, List.foldl_cons]
        simp only [Nat.zero_mul, Nat.zero_add]
        rfl
      · rfl

theorem WritesInRadix.head?_eq_iff (writes : WritesInRadix radix n text) (bounded : radix ≤ 36) :
    text.head? = some '-' ↔ n < 0 := by
  cases writes with
  | zero => decide
  | @signed _ digits nonzero small leading value =>
      split
      · exact iff_of_true rfl ‹n < 0›
      · refine iff_of_false ?_ ‹¬ n < 0›
        rw [List.nil_append, List.head?_map]
        cases digits with
        | nil => nofun
        | cons first rest =>
            intro sign
            have valued := digitValue?_digitChar_of_lt
              ((small first List.mem_cons_self).trans_le bounded)
            rw [Option.some.inj sign, show Text.digitValue? '-' = none by decide] at valued
            cases valued

/-- A text writes at most one number. -/
theorem WritesInRadix.unique (bounded : radix ≤ 36) (first : WritesInRadix radix m text)
    (second : WritesInRadix radix n text) : m = n := by
  have size := (first.ofDigits_eq bounded).symm.trans (second.ofDigits_eq bounded)
  have sign := (first.head?_eq_iff bounded).symm.trans (second.head?_eq_iff bounded)
  omega

end Number

namespace Binary64

open Number (WritesInRadix)

variable {x : Binary64} {radix : ℕ}

/-- A number without a fraction part is below zero if its integer part is. -/
theorem lt_zero_iff (whole : x.isInteger) : x.lt zero = true ↔ x.toInt < 0 := by
  have isNumber : x.isNaN = false := isNaN_of_isFinite (Bool.and_eq_true_iff.mp whole).1
  have below : x.lt zero = true ↔ x.order < 0 := by
    rw [lt, isNumber]
    exact decide_eq_true_iff
  rw [below]
  by_cases none : x.isZero
  · rw [(toInt_eq_zero_iff whole).mpr none, x.order_eq_zero_iff.mpr none]
  · have apart := mt x.order_eq_zero_iff.mp none
    rw [toInt_neg_iff whole none, order_eq]
    split
    · exact iff_of_true (by omega) ‹x.negative›
    · exact iff_of_false (by omega) ‹¬ x.negative›

/-- The whole number nearest to another one among those of at most 64 bits and a sign. -/
def cappedWord (n : ℤ) : ℤ :=
  n.sign * min n.natAbs (2 ^ 64 - 1)

theorem cappedWord_of_lt {n : ℤ} (small : n.natAbs < 2 ^ 64) : cappedWord n = n := by
  rw [cappedWord, min_eq_left (by omega), Int.sign_mul_natAbs]

theorem cappedWord_of_le {n : ℤ} (large : 2 ^ 64 ≤ n.natAbs) :
    cappedWord n = n.sign * (2 ^ 64 - 1) := by
  rw [cappedWord, min_eq_right (by omega)]
  norm_num

/-- In a radix other than ten a number without a fraction part is written with its size capped at
the largest 64-bit word. -/
theorem writesInRadix_toRadix (whole : x.isInteger) (several : 2 ≤ radix) (notTen : radix ≠ 10) :
    WritesInRadix radix (cappedWord x.toInt) (x.toRadix radix).toList := by
  have form : x.toRadix radix =
      if min x.toInt.natAbs (2 ^ 64 - 1) = 0 then "0"
      else String.ofList (if x.lt zero
        then '-' :: Number.natText radix (min x.toInt.natAbs (2 ^ 64 - 1))
        else Number.natText radix (min x.toInt.natAbs (2 ^ 64 - 1))) := by
    rw [toRadix, whole, if_neg (by simpa using notTen)]
    rfl
  rw [form]
  by_cases none : x.toInt = 0
  · have capped : cappedWord 0 = 0 := rfl
    rw [none, capped, if_pos (by decide)]
    exact .zero
  · have positive : 0 < min x.toInt.natAbs (2 ^ 64 - 1) := by omega
    have size : (cappedWord x.toInt).natAbs = min x.toInt.natAbs (2 ^ 64 - 1) := by
      rw [cappedWord, Int.natAbs_mul, Int.natAbs_sign_of_ne_zero none, Nat.one_mul]
      rfl
    have sign : cappedWord x.toInt < 0 ↔ x.toInt < 0 := by
      rcases lt_or_ge x.toInt.natAbs (2 ^ 64) with small | large
      · rw [cappedWord_of_lt small]
      · rw [cappedWord_of_le large]
        rcases lt_trichotomy x.toInt 0 with below | zero | above
        · rw [Int.sign_eq_neg_one_of_neg below]
          omega
        · exact absurd zero none
        · rw [Int.sign_eq_one_of_pos above]
          omega
    rcases Number.digits_of_positive several positive with ⟨small, leading, value⟩
    have writes : WritesInRadix radix (cappedWord x.toInt)
        ((if cappedWord x.toInt < 0 then ['-'] else []) ++
          (Number.digits radix (min x.toInt.natAbs (2 ^ 64 - 1))).map Number.digitChar) := by
      apply WritesInRadix.signed _ small leading
      · rw [value, size]
      · intro zero
        rw [zero] at size
        omega
    rw [if_neg positive.ne', String.toList_ofList]
    simp only [lt_zero_iff whole, ← sign]
    convert writes using 1
    split <;> rfl

end Binary64

end Stencil
