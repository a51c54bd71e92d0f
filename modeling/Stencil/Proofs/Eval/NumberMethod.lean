import Stencil.Eval.Method
import Stencil.Proofs.Number.Fixed
import Stencil.Proofs.Number.Grouped
import Stencil.Proofs.Number.Integer
import Stencil.Proofs.Number.Radix

/-!
# Numbers with a fixed count of digits, in groups and in a radix

One method is asked for a count of digits behind the point.  Below `10 ^ 21` it spells the exact
value of the number, rounded half up, with exactly that many digits.  Another method groups the
digits in front of the point, with at most three behind it.  The two agree on three digits except
halfway between an even last digit and the next one.  A third method is asked for a radix.  It
writes a whole number in any radix but ten exactly if the number has at most 64 bits.
-/

namespace Stencil

namespace NumberMethod

variable {x : Binary64}

theorem magnitude_power : (Binary64.ofNat (Nat.pow 10 21)).magnitude = 10 ^ 21 := by
  have power : Binary64.ofNat (Nat.pow 10 21) = ⟨false, 1092, 3125794903879504⟩ := rfl
  rw [power, Binary64.magnitude, Binary64.significand, Binary64.scale, if_neg (by decide),
    if_neg (by decide)]
  norm_num [zpow_natCast]

/-- The bound up to which numbers get a fixed count of digits is one on their magnitudes. -/
theorem lt_power (finite : x.isFinite) (small : x.magnitude < 10 ^ 21) :
    x.abs.lt (.ofNat (Nat.pow 10 21)) := by
  have power : (Binary64.ofNat (Nat.pow 10 21)).isFinite ∧
      (Binary64.ofNat (Nat.pow 10 21)).negative = false :=
    ⟨rfl, rfl⟩
  exact Binary64.abs_lt_of_magnitude_lt finite power.1 power.2 (magnitude_power ▸ small)

theorem toFixed_eq {args : Arguments} {places : ℕ} (finite : x.isFinite)
    (small : x.magnitude < 10 ^ 21) (asked : args.whole 0 (.finite 0) = .finite places)
    (few : places ≤ 100) : toFixed x args = .ok (.string (x.toFixed places)) := by
  have inRange : inRange? 0 100 (.finite places) = some places := by
    simp only [inRange?, Int.toNat_natCast, ite_eq_left_iff]
    simp only [Bool.and_eq_true, decide_eq_true_eq]
    omega
  rw [toFixed, asked, inRange, finite, lt_power finite small]
  rfl

theorem toRadix_eq {args : Arguments} {radix : ℕ} (x : Binary64)
    (asked : args.whole 0 (.finite 10) = .finite radix) (several : 2 ≤ radix)
    (bounded : radix ≤ 36) : toRadix x args = .ok (.string (x.toRadix radix)) := by
  have inRange : inRange? 2 36 (.finite radix) = some radix := by
    simp only [inRange?, Int.toNat_natCast, ite_eq_left_iff]
    simp only [Bool.and_eq_true, decide_eq_true_eq]
    omega
  rw [toRadix, asked, inRange]

end NumberMethod

open Calendar (Instant)

/-- A number with a fixed count of digits is spelled by a minus sign if it is below zero, digits in
front of the point without a superfluous zero, and exactly that count of digits behind it.  They
stand for the exact value of the number, rounded half up in the last place. -/
theorem Value.exists_method_toFixed {x : Binary64} (finite : x.isFinite)
    (small : x.magnitude < 10 ^ 21) {args : Arguments} {places : ℕ}
    (asked : args.whole 0 (.finite 0) = .finite places) (few : places ≤ 100) (now : Instant) :
    ∃ s : Spelling, s.IsProper ∧ s.exponent = none ∧ s.fraction.length = places ∧
      s.value = ⌊x.magnitude * 10 ^ places + 1 / 2⌋₊ / 10 ^ places ∧
      (number x).method? now args "toFixed" =
        some (.ok (string (String.ofList ((if x.lt .zero then ['-'] else []) ++ s.text)))) := by
  rcases x.exists_toFixed_eq (show places < 1074 by omega) with
    ⟨s, proper, noExponent, length, value, spelled⟩
  refine ⟨s, proper, noExponent, length, value, ?_⟩
  rw [← spelled]
  exact congrArg some (NumberMethod.toFixed_eq finite small asked few)

/-- With one digit behind the point, -0.96875 is -1.0: the carry goes over the point. -/
theorem Value.method_toFixed_carry :
    ∃ s : Spelling, s.IsProper ∧ s.fraction.length = 1 ∧ s.value = 1 ∧
      (number ⟨true, 1022, 4222124650659840⟩).method? ⟨0, 0⟩ [.number (.ofNat 1)] "toFixed" =
        some (.ok (string (String.ofList ('-' :: s.text)))) := by
  have magnitude : Binary64.magnitude ⟨true, 1022, 4222124650659840⟩ = 31 / 32 := by
    rw [Binary64.magnitude, Binary64.significand, Binary64.scale, if_neg (by decide),
      if_neg (by decide)]
    norm_num [zpow_neg]
  have asked : Arguments.whole [.number (.ofNat 1)] 0 (.finite 0) = .finite (1 : ℕ) := by
    decide +kernel
  rcases Value.exists_method_toFixed rfl (by rw [magnitude]; norm_num) asked (by decide) ⟨0, 0⟩ with
    ⟨s, proper, -, length, value, written⟩
  refine ⟨s, proper, length, ?_, written⟩
  rw [value, magnitude, show ⌊(31 / 32 : ℚ) * 10 ^ 1 + 1 / 2⌋₊ = 10 by norm_num [Nat.floor_eq_iff]]
  norm_num

/-! ## Grouped numbers -/

section Grouped

open Number (WritesGrouped inThousandths unsignedZero signedThousandths)

theorem whole_three : Arguments.whole [.number (.ofNat 3)] 0 (.finite 0) = .finite (3 : ℕ) := by
  decide +kernel

/-- A grouped number has a comma in front of every three digits counted from the point.  Without the
commas and with zeros up to the third digit behind the point, it is the number with three fraction
digits, of which a zero has no sign, except a sixteenth behind a multiple of a quarter: halfway
between two thousandths, the grouped number is rounded to the even one and the other one up. -/
theorem Value.exists_method_toLocaleString {x : Binary64} (finite : x.isFinite)
    (small : x.magnitude < 10 ^ 21) (args : Arguments) (now : Instant) :
    ∃ grouped fixed : List Char,
      (number x).method? now args "toLocaleString" =
          some (.ok (string (String.ofList grouped))) ∧
        (number x).method? now [.number (.ofNat 3)] "toFixed" =
          some (.ok (string (String.ofList fixed))) ∧
        WritesGrouped grouped ∧
        (inThousandths grouped = unsignedZero fixed ↔
          ∀ k : ℕ, x.magnitude ≠ k / 4 + 1 / 16) ∧
        ∀ k : ℕ, x.magnitude = k / 4 + 1 / 16 →
          inThousandths grouped = signedThousandths (x.lt .zero) (250 * k + 62) ∧
            unsignedZero fixed = signedThousandths (x.lt .zero) (250 * k + 63) := by
  rcases Binary64.toGrouped_spec finite with ⟨writes, thousandths⟩
  have fixed := congrArg some (NumberMethod.toFixed_eq finite small whole_three (by decide))
  rw [x.toFixed_three] at fixed
  have called : (number x).method? now args "toLocaleString" =
      some (.ok (string (String.ofList x.toGrouped.toList))) := by
    rw [String.ofList_toList]
    rfl
  refine ⟨_, _, called, fixed, writes, ?_, ?_⟩
  · rw [thousandths, Number.unsignedZero_thousandthsText, ← Binary64.thousandths_eq_iff]
    exact ⟨Number.signedThousandths_injective, congrArg _⟩
  · intro k tie
    rcases Binary64.thousandths_of_sixteenths tie with ⟨toEven, up⟩
    rw [thousandths, Number.unsignedZero_thousandthsText, toEven, up]
    exact ⟨rfl, rfl⟩

/-- Rounding -999999.9998779296875 carries over the point and the comma. -/
theorem Value.method_toLocaleString_carry :
    ∃ grouped fixed : List Char,
      (number ⟨true, 1042, 4086334963580928⟩).method? ⟨0, 0⟩ [] "toLocaleString" =
          some (.ok (string (String.ofList grouped))) ∧
        (number ⟨true, 1042, 4086334963580928⟩).method? ⟨0, 0⟩ [.number (.ofNat 3)] "toFixed" =
          some (.ok (string (String.ofList fixed))) ∧
        String.ofList grouped = "-1,000,000" ∧
        inThousandths grouped = unsignedZero fixed := by
  have magnitude : Binary64.magnitude ⟨true, 1042, 4086334963580928⟩ = 8191999999 / 8192 := by
    rw [Binary64.magnitude, Binary64.significand, Binary64.scale, if_neg (by decide),
      if_neg (by decide)]
    norm_num [zpow_neg]
  rcases Value.exists_method_toLocaleString rfl (by rw [magnitude]; norm_num) [] ⟨0, 0⟩ with
    ⟨grouped, fixed, called, calledAlso, -, agree, -⟩
  have text : Binary64.toGrouped ⟨true, 1042, 4086334963580928⟩ = "-1,000,000" := by decide +kernel
  refine ⟨grouped, fixed, called, calledAlso, ?_, agree.mpr fun k tie => ?_⟩
  · rw [← text]
    exact Value.string.inj (Except.ok.inj (Option.some.inj called.symm))
  · rw [magnitude] at tie
    have whole : (8191999999 : ℚ) = 2048 * k + 512 := by linarith
    have whole : 8191999999 = 2048 * k + 512 := by exact_mod_cast whole
    omega

/-- One sixteenth is 0.062 as a grouped number, and 0.063 with three fraction digits. -/
theorem Value.method_toLocaleString_sixteenth :
    Binary64.magnitude ⟨false, 1019, 0⟩ = 1 / 16 ∧
      (number ⟨false, 1019, 0⟩).method? ⟨0, 0⟩ [] "toLocaleString" =
        some (.ok (string "0.062")) ∧
      (number ⟨false, 1019, 0⟩).method? ⟨0, 0⟩ [.number (.ofNat 3)] "toFixed" =
        some (.ok (string "0.063")) ∧
      inThousandths "0.062".toList ≠ unsignedZero "0.063".toList := by
  have magnitude : Binary64.magnitude ⟨false, 1019, 0⟩ = 1 / 16 := by
    rw [Binary64.magnitude, Binary64.significand, Binary64.scale, if_neg (by decide),
      if_neg (by decide)]
    norm_num [zpow_neg]
  have grouped : Binary64.toGrouped ⟨false, 1019, 0⟩ = "0.062" := by decide +kernel
  have fixed : Binary64.toFixed ⟨false, 1019, 0⟩ 3 = "0.063" := by decide +kernel
  have small : Binary64.magnitude ⟨false, 1019, 0⟩ < 10 ^ 21 := by
    rw [magnitude]
    norm_num
  refine ⟨magnitude, ?_, ?_, by decide⟩
  · rw [← grouped]
    rfl
  · rw [← fixed]
    exact congrArg some (NumberMethod.toFixed_eq rfl small whole_three (by decide))

end Grouped

/-! ## Whole numbers in a radix -/

open Number (WritesInRadix)

/-- The text of a whole number in a radix other than ten writes the number exactly if its size has
at most 64 bits.  The text of every larger number writes the largest 64-bit word with its sign. -/
theorem Value.exists_method_toString_radix {x : Binary64} (whole : x.isInteger) {args : Arguments}
    {radix : ℕ} (asked : args.whole 0 (.finite 10) = .finite radix) (several : 2 ≤ radix)
    (bounded : radix ≤ 36) (notTen : radix ≠ 10) (now : Instant) :
    ∃ text : String,
      (number x).method? now args "toString" = some (.ok (string text)) ∧
        (WritesInRadix radix x.toInt text.toList ↔ x.toInt.natAbs < 2 ^ 64) ∧
        (2 ^ 64 ≤ x.toInt.natAbs →
          WritesInRadix radix (x.toInt.sign * (2 ^ 64 - 1)) text.toList) := by
  have writes := Binary64.writesInRadix_toRadix whole several notTen
  refine ⟨x.toRadix radix, ?_, ?_, ?_⟩
  · exact congrArg some (NumberMethod.toRadix_eq x asked several bounded)
  · constructor
    · intro isExact
      have same := writes.unique bounded isExact
      by_contra large
      rw [Binary64.cappedWord_of_le (by omega)] at same
      have size := congrArg Int.natAbs same
      rw [Int.natAbs_mul] at size
      have sign : x.toInt.sign.natAbs ≤ 1 := by
        rcases x.toInt.sign_trichotomy with one | zero | minus <;> omega
      have product : x.toInt.sign.natAbs * (2 ^ 64 - 1 : ℤ).natAbs ≤ 1 * (2 ^ 64 - 1) :=
        Nat.mul_le_mul_right _ sign
      omega
    · intro small
      rw [Binary64.cappedWord_of_lt small] at writes
      exact writes
  · intro large
    rw [Binary64.cappedWord_of_le large] at writes
    exact writes

/-- In base sixteen, -255 is written exactly. -/
theorem Value.method_toString_radix_negative :
    ∃ text : String,
      (number (.ofInt (-255))).method? ⟨0, 0⟩ [.number (.ofNat 16)] "toString" =
          some (.ok (string text)) ∧
        WritesInRadix 16 (-255) text.toList := by
  have whole : (Binary64.ofInt (-255)).isInteger := rfl
  have value : (Binary64.ofInt (-255)).toInt = -255 := rfl
  have asked : Arguments.whole [.number (.ofNat 16)] 0 (.finite 10) = .finite (16 : ℕ) := rfl
  rcases Value.exists_method_toString_radix whole asked (by decide) (by decide) (by decide) ⟨0, 0⟩
    with ⟨text, answered, isExact, -⟩
  rw [value] at isExact
  exact ⟨text, answered, isExact.mpr (by decide)⟩

/-- In base sixteen, the least number of 65 bits has the text of the largest of 64 bits. -/
theorem Value.method_toString_radix_capped :
    (Binary64.ofNat (2 ^ 64)).isInteger = true ∧ (Binary64.ofNat (2 ^ 64)).toInt = 2 ^ 64 ∧
      (number (.ofNat (2 ^ 64))).method? ⟨0, 0⟩ [.number (.ofNat 16)] "toString" =
        some (.ok (string "ffffffffffffffff")) ∧
      ¬ WritesInRadix 16 (2 ^ 64) "ffffffffffffffff".toList := by
  have asked : Arguments.whole [.number (.ofNat 16)] 0 (.finite 10) = .finite (16 : ℕ) := rfl
  have text : (Binary64.ofNat (2 ^ 64)).toRadix 16 = "ffffffffffffffff" := by decide +kernel
  refine ⟨rfl, rfl, ?_, ?_⟩
  · rw [← text]
    exact congrArg some (NumberMethod.toRadix_eq _ asked (by decide) (by decide))
  · intro writes
    have value := writes.ofDigits_eq (by decide)
    exact absurd value (by decide)

end Stencil
