import Stencil.Proofs.Number.Rounding

/-!
# Equal decimals

A fraction is rounded by its value, however it is cancelled.  So a decimal is rounded by its value,
however the power of ten and the digits share it.
-/

namespace Stencil.Binary64

variable {num den num' den' : ℕ}

/-! ## Fractions -/

theorem cross_mul (positive : 0 < den) (positive' : 0 < den')
    (same : (num : ℚ) / den = num' / den') : num * den' = num' * den := by
  rw [div_eq_div_iff (by exact_mod_cast positive.ne') (by exact_mod_cast positive'.ne')] at same
  exact_mod_cast same

theorem divideToEven_mul_left {common : ℕ} (positive : 0 < common) (num den : ℕ) :
    divideToEven (common * num) (common * den) = divideToEven num den := by
  have doubled (rest : ℕ) : 2 * (common * rest) = common * (2 * rest) := by ring
  simp only [divideToEven, Nat.mul_div_mul_left _ _ positive, Nat.mul_mod_mul_left, doubled,
    gt_iff_lt, Nat.mul_lt_mul_left positive, beq_iff_eq, Bool.or_eq_true, decide_eq_true_eq,
    Bool.and_eq_true, Nat.mul_right_inj positive.ne']

theorem divideToEven_congr (positive : 0 < den) (positive' : 0 < den')
    (same : (num : ℚ) / den = num' / den') : divideToEven num den = divideToEven num' den' := by
  calc divideToEven num den = divideToEven (den' * num) (den' * den) :=
        (divideToEven_mul_left positive' num den).symm
    _ = divideToEven (den * num') (den * den') := by
        rw [Nat.mul_comm den' num, cross_mul positive positive' same, Nat.mul_comm num' den,
          Nat.mul_comm den' den]
    _ = divideToEven num' den' := divideToEven_mul_left positive num' den'

/-- Fractions of one value are rounded alike. -/
theorem round_congr (positive : 0 < den) (positive' : 0 < den')
    (same : (num : ℚ) / den = num' / den') (negative : Bool) :
    round negative num den = round negative num' den' := by
  have crossed := cross_mul positive positive' same
  rcases Nat.eq_zero_or_pos num with rfl | numPos
  · rw [Nat.zero_mul, eq_comm, Nat.mul_eq_zero, or_iff_left positive.ne'] at crossed
    rw [crossed]
    rfl
  · have numPos' : 0 < num' := by
      refine Nat.pos_of_mul_pos_right (b := den) ?_
      rw [← crossed]
      exact Nat.mul_pos numPos positive'
    have scale : scaleOf num den = scaleOf num' den' := by
      rw [scaleOf_eq numPos positive, scaleOf_eq numPos' positive', same]
    simp only [round, if_neg numPos.ne', if_neg numPos'.ne', scale]
    congr 1
    split
    · rename_i nonneg
      refine divideToEven_congr (Nat.mul_pos positive (Nat.two_pow_pos _))
        (Nat.mul_pos positive' (Nat.two_pow_pos _)) ?_
      rw [div_scaled_of_nonneg _ _ nonneg, div_scaled_of_nonneg _ _ nonneg, same]
    · rename_i below
      refine divideToEven_congr positive positive' ?_
      rw [div_scaled_of_neg _ _ (by omega), div_scaled_of_neg _ _ (by omega), same]

theorem neg_pack (negative : Bool) (significand : ℕ) (e : ℤ) :
    (pack negative significand e).neg = pack (!negative) significand e := by
  simp only [pack]
  generalize (e + 1075).toNat + (if significand = Nat.pow 2 53 then 1 else 0) = exponent
  split
  · rfl
  · split <;> rfl

theorem neg_round (negative : Bool) (num den : ℕ) :
    (round negative num den).neg = round (!negative) num den := by
  rw [round, round]
  split
  · rfl
  · exact neg_pack negative _ _

/-! ## Products and quotients -/

section

variable {x y : Binary64}

theorem natAbs_signedSignificand (x : Binary64) : x.signedSignificand.natAbs = x.significand := by
  rw [signedSignificand]
  split <;> omega

/-- A product that is not zero is negative if the signs of its factors differ. -/
theorem mul_signedSignificand_neg (x y : Binary64)
    (nonzero : x.signedSignificand * y.signedSignificand ≠ 0) :
    decide (x.signedSignificand * y.signedSignificand < 0) = (x.negative != y.negative) := by
  have product : (0 : ℤ) < x.significand * y.significand := by
    rw [← natAbs_signedSignificand, ← natAbs_signedSignificand, ← Nat.cast_mul, ← Int.natAbs_mul]
    exact_mod_cast Int.natAbs_pos.mpr nonzero
  cases sign : x.negative <;> cases sign' : y.negative <;>
    simp [signedSignificand, sign, sign', product, product.le]

/-- A product is the rounded product of the magnitudes. -/
theorem mul_eq_round (finite : x.isFinite) (finite' : y.isFinite) (positive : 0 < den)
    (value : (num : ℚ) / den = x.magnitude * y.magnitude) :
    x.mul y = round (x.negative != y.negative) num den := by
  have exact_eq : x.magnitude * y.magnitude =
      (x.significand * y.significand : ℕ) * 2 ^ (x.scale + y.scale) := by
    rw [magnitude, magnitude, zpow_add₀ (by norm_num)]
    push_cast
    ring
  have size : (x.signedSignificand * y.signedSignificand).natAbs =
      x.significand * y.significand := by
    rw [Int.natAbs_mul, natAbs_signedSignificand, natAbs_signedSignificand]
  rw [exact_eq] at value
  simp only [mul, isNaN_of_isFinite finite, isNaN_of_isFinite finite',
    isInfinite_of_isFinite finite, isInfinite_of_isFinite finite', Bool.or_self,
    Bool.false_eq_true, if_false]
  rw [ofScaled]
  generalize x.scale + y.scale = e at value ⊢
  split
  · rename_i none
    have noDigits : num = 0 := by
      rw [← size, none, Int.natAbs_zero, Nat.cast_zero, zero_mul] at value
      exact_mod_cast (div_eq_zero_iff.mp value).resolve_right (by exact_mod_cast positive.ne')
    rw [noDigits]
    rfl
  · rename_i nonzero
    rw [mul_signedSignificand_neg x y nonzero, size]
    split
    · rename_i nonneg
      refine round_congr Nat.one_pos positive ?_ _
      rw [value, Nat.cast_one, div_one, two_zpow_toNat nonneg, Nat.pow_eq]
      push_cast
      rfl
    · rename_i negative
      refine round_congr (Nat.two_pow_pos _) positive ?_ _
      rw [value, div_eq_mul_inv, Nat.cast_pow, Nat.cast_ofNat, ← two_zpow_toNat (by omega),
        ← zpow_neg, Int.neg_neg]

/-- A quotient is the rounded quotient of the magnitudes. -/
theorem div_eq_round (finite : x.isFinite) (finite' : y.isFinite) (nonzero : ¬ y.isZero)
    (positive : 0 < den) (value : (num : ℚ) / den = x.magnitude / y.magnitude) :
    x.div y = round (x.negative != y.negative) num den := by
  have divisor : 0 < y.ratio.1 := by
    rw [Nat.pos_iff_ne_zero]
    intro none
    refine mt y.magnitude_eq_zero_iff.mp nonzero ?_
    rw [← ratio_eq_magnitude, none, Nat.cast_zero, zero_div]
  simp only [div, isNaN_of_isFinite finite, isNaN_of_isFinite finite',
    isInfinite_of_isFinite finite, isInfinite_of_isFinite finite', Bool.or_self,
    Bool.false_eq_true, if_false, nonzero]
  refine round_congr (Nat.mul_pos x.ratio_den_pos divisor) positive ?_ _
  rw [value, ← ratio_eq_magnitude, ← ratio_eq_magnitude, div_div_div_eq]
  push_cast
  rfl

end

/-! ## Decimals -/

variable {digits digits' : ℕ} {exponent exponent' : ℤ}

/-- Equal decimals begin with the same power of ten. -/
theorem top_congr (positive : 0 < digits) (positive' : 0 < digits')
    (same : (digits : ℚ) * 10 ^ exponent = digits' * 10 ^ exponent') :
    (Nat.toDigits 10 digits).length + exponent = (Nat.toDigits 10 digits').length + exponent' := by
  rcases decimal_bounds positive exponent with ⟨low, high⟩
  rcases decimal_bounds positive' exponent' with ⟨low', high'⟩
  rw [same] at low high
  have less := low.trans_lt high'
  have less' := low'.trans_lt high
  rw [zpow_lt_zpow_iff_right₀ (by norm_num)] at less less'
  omega

/-- Decimals of one value are rounded alike. -/
theorem ofDecimal_congr (same : (digits : ℚ) * 10 ^ exponent = digits' * 10 ^ exponent')
    (negative : Bool) :
    ofDecimal negative digits exponent = ofDecimal negative digits' exponent' := by
  have power := ten_zpow_pos exponent
  have power' := ten_zpow_pos exponent'
  rcases Nat.eq_zero_or_pos digits with rfl | positive
  · rw [Nat.cast_zero, zero_mul, eq_comm, mul_eq_zero, or_iff_left power'.ne', Nat.cast_eq_zero]
      at same
    rw [same]
    rfl
  · have positive' : 0 < digits' := by
      rw [Nat.pos_iff_ne_zero]
      rintro rfl
      rw [Nat.cast_zero, zero_mul, mul_eq_zero, or_iff_left power.ne', Nat.cast_eq_zero] at same
      exact positive.ne' same
    rcases exists_fraction negative digits exponent with ⟨num, den, denPos, value, rounded⟩
    rcases exists_fraction negative digits' exponent' with ⟨num', den', denPos', value', rounded'⟩
    have alike := round_congr denPos denPos' (value.trans (same.trans value'.symm)) negative
    simp only [ofDecimal, if_neg positive.ne', if_neg positive'.ne',
      top_congr positive positive' same, rounded, rounded', alike]

end Stencil.Binary64
