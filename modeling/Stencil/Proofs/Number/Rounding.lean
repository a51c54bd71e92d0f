import Mathlib.Algebra.Order.Field.Power
import Mathlib.Algebra.Order.Floor.Semifield
import Mathlib.Data.Int.Log
import Mathlib.Data.Rat.Floor
import Mathlib.Tactic.FieldSimp
import Mathlib.Tactic.Linarith
import Mathlib.Tactic.Positivity
import Stencil.Number.Arithmetic

/-!
# Rounding

A finite number covers the rationals that lie nearer to it than to its neighbours, and those halfway
if its significand is even.  Whatever a number covers is rounded to it.
-/

namespace Stencil.Binary64

/-! ## Finite numbers -/

theorem isNaN_of_isFinite {x : Binary64} (finite : x.isFinite) : x.isNaN = false := by
  rw [isFinite, bne_iff_ne] at finite
  rw [isNaN, beq_false_of_ne finite, Bool.false_and]

theorem isInfinite_of_isFinite {x : Binary64} (finite : x.isFinite) : x.isInfinite = false := by
  rw [isFinite, bne_iff_ne] at finite
  rw [isInfinite, beq_false_of_ne finite, Bool.false_and]

/-! ## Powers of two -/

theorem two_zpow_pos (e : ℤ) : (0 : ℚ) < 2 ^ e :=
  zpow_pos (by norm_num) e

theorem two_zpow_toNat {e : ℤ} (nonneg : 0 ≤ e) : (2 : ℚ) ^ e = 2 ^ e.toNat := by
  rw [← zpow_natCast, Int.toNat_of_nonneg nonneg]

/-- A fraction with a power of two taken out of it. -/
theorem div_scaled_of_nonneg (num den : ℕ) {e : ℤ} (nonneg : 0 ≤ e) :
    (num : ℚ) / ((den * Nat.pow 2 e.toNat : ℕ) : ℚ) = num / den / 2 ^ e := by
  rw [two_zpow_toNat nonneg, Nat.pow_eq, Nat.cast_mul, Nat.cast_pow, Nat.cast_ofNat, div_div]

theorem div_scaled_of_neg (num den : ℕ) {e : ℤ} (negative : e < 0) :
    ((num * Nat.pow 2 (-e).toNat : ℕ) : ℚ) / (den : ℚ) = num / den / 2 ^ e := by
  have power : (2 : ℚ) ^ e = (2 ^ (-e).toNat)⁻¹ := by
    rw [← two_zpow_toNat (by omega), zpow_neg, inv_inv]
  rw [power, div_inv_eq_mul, Nat.pow_eq, Nat.cast_mul, Nat.cast_pow, Nat.cast_ofNat,
    mul_div_right_comm]

/-! ## The scale of a fraction -/

theorem log_div_bounds {num den : ℕ} (numPos : 0 < num) (denPos : 0 < den) :
    (num.log2 : ℤ) - den.log2 - 1 ≤ Int.log 2 ((num : ℚ) / den) ∧
      Int.log 2 ((num : ℚ) / den) ≤ (num.log2 : ℤ) - den.log2 := by
  have positive : (0 : ℚ) < num / den := by positivity
  have numLow : (2 : ℚ) ^ (num.log2 : ℤ) ≤ num := by
    exact_mod_cast Nat.log2_self_le numPos.ne'
  have numHigh : (num : ℚ) < 2 ^ ((num.log2 : ℤ) + 1) := by
    exact_mod_cast Nat.lt_log2_self (n := num)
  have denLow : (2 : ℚ) ^ (den.log2 : ℤ) ≤ den := by
    exact_mod_cast Nat.log2_self_le denPos.ne'
  have denHigh : (den : ℚ) < 2 ^ ((den.log2 : ℤ) + 1) := by
    exact_mod_cast Nat.lt_log2_self (n := den)
  have denCast : (0 : ℚ) < den := by exact_mod_cast denPos
  constructor
  · rw [← Int.zpow_le_iff_le_log (b := 2) (by norm_num) positive]
    rw [Nat.cast_ofNat, le_div_iff₀ denCast]
    calc (2 : ℚ) ^ ((num.log2 : ℤ) - den.log2 - 1) * den
        ≤ 2 ^ ((num.log2 : ℤ) - den.log2 - 1) * 2 ^ ((den.log2 : ℤ) + 1) := by gcongr
      _ = 2 ^ (num.log2 : ℤ) := by rw [← zpow_add₀ (by norm_num)]; congr 1; ring
      _ ≤ num := numLow
  · rw [← Int.lt_add_one_iff, ← Int.lt_zpow_iff_log_lt (b := 2) (by norm_num) positive]
    rw [Nat.cast_ofNat, div_lt_iff₀ denCast]
    calc (num : ℚ) < 2 ^ ((num.log2 : ℤ) + 1) := numHigh
      _ = 2 ^ ((num.log2 : ℤ) - den.log2 + 1) * 2 ^ (den.log2 : ℤ) := by
        rw [← zpow_add₀ (by norm_num)]; congr 1; ring
      _ ≤ 2 ^ ((num.log2 : ℤ) - den.log2 + 1) * den := by gcongr

theorem nat_div_lt_iff {num den bound : ℕ} (denPos : 0 < den) :
    num / den < bound ↔ (num : ℚ) / den < bound := by
  rw [Nat.div_lt_iff_lt_mul denPos, div_lt_iff₀ (by exact_mod_cast denPos)]
  exact_mod_cast Iff.rfl

/-- The scale puts the leading bit of a fraction at that of a significand. -/
theorem scaleOf_eq {num den : ℕ} (numPos : 0 < num) (denPos : 0 < den) :
    scaleOf num den = max (Int.log 2 ((num : ℚ) / den) - 52) (-1074) := by
  have positive : (0 : ℚ) < num / den := by positivity
  rcases log_div_bounds numPos denPos with ⟨low, high⟩
  have small (e : ℤ) : (num : ℚ) / den / 2 ^ e < 2 ^ 52 ↔ Int.log 2 ((num : ℚ) / den) < e + 52 := by
    rw [← Int.lt_zpow_iff_log_lt (b := 2) (by norm_num) positive, div_lt_iff₀ (two_zpow_pos e),
      zpow_add₀ (by norm_num), mul_comm]
    norm_num
  rw [scaleOf]
  generalize guess_eq : (num.log2 : ℤ) - den.log2 - 52 = guess
  have quotient : (if 0 ≤ guess then num / (den * Nat.pow 2 guess.toNat)
      else num * Nat.pow 2 (-guess).toNat / den) < Nat.pow 2 52 ↔
        Int.log 2 ((num : ℚ) / den) < guess + 52 := by
    have limit : ((Nat.pow 2 52 : ℕ) : ℚ) = 2 ^ 52 := by norm_num
    rw [← small]
    split
    · rename_i nonneg
      have powPos : 0 < Nat.pow 2 guess.toNat := Nat.two_pow_pos _
      rw [nat_div_lt_iff (Nat.mul_pos denPos powPos), div_scaled_of_nonneg _ _ nonneg, limit]
    · rename_i negative
      rw [nat_div_lt_iff denPos, div_scaled_of_neg _ _ (by omega), limit]
  by_cases below : Int.log 2 ((num : ℚ) / den) < guess + 52
  · rw [if_pos (quotient.mpr below)]
    omega
  · rw [if_neg (mt quotient.mp below)]
    omega

/-! ## The nearest whole number -/

/-- A fraction rounds to a whole number if it is no more than half away from it, and exactly half
only if that number is even. -/
theorem divideToEven_eq {num den nearest : ℕ} (denPos : 0 < den)
    (low : (nearest : ℚ) - 1 / 2 ≤ num / den) (high : (num : ℚ) / den ≤ nearest + 1 / 2)
    (odd : nearest % 2 = 1 →
      (nearest : ℚ) - 1 / 2 < num / den ∧ (num : ℚ) / den < nearest + 1 / 2) :
    divideToEven num den = nearest := by
  have denCast : (0 : ℚ) < den := by exact_mod_cast denPos
  rw [le_div_iff₀ denCast, sub_mul] at low
  rw [div_le_iff₀ denCast, add_mul] at high
  rw [lt_div_iff₀ denCast, div_lt_iff₀ denCast, sub_mul, add_mul] at odd
  have lowNat : 2 * (nearest * den) ≤ 2 * num + den := by
    have : (2 : ℚ) * (nearest * den) ≤ 2 * num + den := by linarith
    exact_mod_cast this
  have highNat : 2 * num ≤ 2 * (nearest * den) + den := by
    have : (2 : ℚ) * num ≤ 2 * (nearest * den) + den := by linarith
    exact_mod_cast this
  have oddNat : nearest % 2 = 1 →
      2 * (nearest * den) < 2 * num + den ∧ 2 * num < 2 * (nearest * den) + den := by
    intro isOdd
    rcases odd isOdd with ⟨low, high⟩
    constructor
    · have : (2 : ℚ) * (nearest * den) < 2 * num + den := by linarith
      exact_mod_cast this
    · have : (2 : ℚ) * num < 2 * (nearest * den) + den := by linarith
      exact_mod_cast this
  have division := Nat.div_add_mod num den
  have remainder := Nat.mod_lt num denPos
  rw [divideToEven]
  generalize num / den = quotient at division ⊢
  generalize num % den = rest at division remainder ⊢
  have above : nearest ≤ quotient + 1 := by
    have : 2 * nearest < 2 * quotient + 3 := by
      refine Nat.lt_of_mul_lt_mul_right (a := den) ?_
      linarith
    omega
  have below : quotient ≤ nearest := by
    have : 2 * quotient ≤ 2 * nearest + 1 := by
      refine Nat.le_of_mul_le_mul_right (c := den) ?_ denPos
      linarith
    omega
  rcases Nat.lt_or_eq_of_le below with less | equal
  · have next : nearest = quotient + 1 := by omega
    rw [next, Nat.add_mul, Nat.one_mul, Nat.mul_comm quotient den] at lowNat oddNat
    rw [if_pos, next]
    simp only [Bool.or_eq_true, decide_eq_true_eq, Bool.and_eq_true, beq_iff_eq]
    omega
  · rw [← equal, Nat.mul_comm quotient den] at highNat oddNat
    rw [if_neg, equal]
    simp only [Bool.or_eq_true, decide_eq_true_eq, Bool.and_eq_true, beq_iff_eq]
    omega

/-! ## What rounds to a number -/

/-- The magnitude of a finite number. -/
def magnitude (x : Binary64) : ℚ :=
  x.significand * 2 ^ x.scale

/-- How far below a number the rationals that round to it reach, in units of its scale.  Below the
smallest number of a scale the next one is only half as far away. -/
def reachBelow (x : Binary64) : ℚ :=
  if x.fraction.val = 0 ∧ 1 < x.exponent.val then 1 / 4 else 1 / 2

/-- The magnitudes that round to a number. -/
structure Covers (x : Binary64) (v : ℚ) : Prop where
  low : (x.significand - x.reachBelow) * 2 ^ x.scale ≤ v
  high : v ≤ (x.significand + 1 / 2) * 2 ^ x.scale
  odd : x.significand % 2 = 1 →
    (x.significand - x.reachBelow) * 2 ^ x.scale < v ∧ v < (x.significand + 1 / 2) * 2 ^ x.scale

theorem reachBelow_pos (x : Binary64) : 0 < x.reachBelow := by
  rw [reachBelow]
  split <;> norm_num

theorem reachBelow_le (x : Binary64) : x.reachBelow ≤ 1 / 2 := by
  rw [reachBelow]
  split <;> norm_num

/-- What the fields of a finite number allow: a subnormal number, or one with a hidden bit. -/
theorem significand_cases {x : Binary64} (finite : x.isFinite) :
    (x.exponent.val = 0 ∧ x.significand = x.fraction.val ∧ x.scale = -1074) ∨
      (1 ≤ x.exponent.val ∧ x.exponent.val ≤ 2046 ∧ x.significand = 2 ^ 52 + x.fraction.val ∧
        x.scale = (x.exponent.val : ℤ) - 1075) := by
  have notTop : x.exponent.val ≠ 2047 := by
    intro top
    have : x.exponent = 2047 := Fin.ext top
    simp [isFinite, this] at finite
  have bound := x.exponent.isLt
  by_cases zero : x.exponent = 0
  · left
    rw [significand, scale, if_pos zero, if_pos zero]
    exact ⟨by rw [zero]; rfl, rfl, rfl⟩
  · have : x.exponent.val ≠ 0 := fun none => zero (Fin.ext none)
    right
    rw [significand, scale, if_neg zero, if_neg zero]
    exact ⟨by omega, by omega, rfl, rfl⟩

theorem pack_significand {x : Binary64} (finite : x.isFinite) :
    pack x.negative x.significand x.scale = x := by
  have bound := x.fraction.isLt
  rcases significand_cases finite with ⟨zero, significand_eq, -⟩ |
    ⟨low, high, significand_eq, scale_eq⟩
  · rw [pack, significand_eq, if_pos (by rw [Nat.pow_eq]; omega)]
    rcases x with ⟨negative, exponent, fraction⟩
    congr
    · exact Fin.ext zero.symm
    · exact Fin.ext (Nat.mod_eq_of_lt bound)
  · have noCarry : ¬ 2 ^ 52 + x.fraction.val = Nat.pow 2 53 := by
      rw [Nat.pow_eq]
      omega
    have exponent_eq : ((x.exponent.val : ℤ) - 1075 + 1075).toNat + 0 = x.exponent.val := by
      omega
    rw [pack, significand_eq, scale_eq, if_neg (by rw [Nat.pow_eq]; omega)]
    simp only [if_neg noCarry, exponent_eq]
    rw [if_neg (by omega)]
    rcases x with ⟨negative, exponent, fraction⟩
    congr
    · exact Fin.ext (Nat.mod_eq_of_lt exponent.isLt)
    · refine Fin.ext ?_
      simp only [Fin.val_ofNat] at bound ⊢
      omega

/-- Rounding a fraction packs the whole number that it is nearest to at its scale. -/
theorem round_eq_pack {num den nearest : ℕ} {e : ℤ} (numPos : 0 < num) (denPos : 0 < den)
    (scale_eq : scaleOf num den = e)
    (low : (nearest : ℚ) - 1 / 2 ≤ num / den / 2 ^ e)
    (high : (num : ℚ) / den / 2 ^ e ≤ nearest + 1 / 2)
    (odd : nearest % 2 = 1 →
      (nearest : ℚ) - 1 / 2 < num / den / 2 ^ e ∧ (num : ℚ) / den / 2 ^ e < nearest + 1 / 2)
    (negative : Bool) : round negative num den = pack negative nearest e := by
  rw [round, if_neg numPos.ne']
  simp only [scale_eq]
  congr 1
  split
  · rename_i nonneg
    rw [← div_scaled_of_nonneg num den nonneg] at low high odd
    have powPos : 0 < Nat.pow 2 e.toNat := Nat.two_pow_pos _
    exact divideToEven_eq (Nat.mul_pos denPos powPos) low high odd
  · rename_i negative
    rw [← div_scaled_of_neg num den (by omega)] at low high odd
    exact divideToEven_eq denPos low high odd

/-- A positive number below a power of two at the scale of a significand. -/
theorem log_lt_of_div_lt {v : ℚ} (positive : 0 < v) {e k : ℤ} (high : v / 2 ^ e < 2 ^ k) :
    Int.log 2 v < e + k := by
  rw [← Int.lt_zpow_iff_log_lt (b := 2) (by norm_num) positive, Nat.cast_ofNat,
    zpow_add₀ (by norm_num), mul_comm]
  exact (div_lt_iff₀ (two_zpow_pos e)).mp high

theorem le_log_of_le_div {v : ℚ} (positive : 0 < v) {e k : ℤ} (low : 2 ^ k ≤ v / 2 ^ e) :
    e + k ≤ Int.log 2 v := by
  rw [← Int.zpow_le_iff_le_log (b := 2) (by norm_num) positive, Nat.cast_ofNat,
    zpow_add₀ (by norm_num), mul_comm]
  exact (le_div_iff₀ (two_zpow_pos e)).mp low

/-- Just below the smallest significand of a scale, the next smaller scale rounds up to it. -/
theorem pack_carry {x : Binary64} (finite : x.isFinite) (noFraction : x.fraction.val = 0)
    (notSmallest : 1 < x.exponent.val) : pack x.negative (2 ^ 53) (x.scale - 1) = x := by
  rcases significand_cases finite with ⟨zero, -⟩ | ⟨-, high, -, scale_eq⟩
  · omega
  · have exponent_eq : ((x.exponent.val : ℤ) - 1075 - 1 + 1075).toNat + 1 = x.exponent.val := by
      omega
    rw [pack, scale_eq, if_neg (by rw [Nat.pow_eq]; omega)]
    simp only [if_pos (show 2 ^ 53 = Nat.pow 2 53 from rfl), exponent_eq]
    rw [if_neg (by omega)]
    rcases x with ⟨negative, exponent, fraction⟩
    congr
    · exact Fin.ext (Nat.mod_eq_of_lt exponent.isLt)
    · refine Fin.ext ?_
      simp only [Fin.val_ofNat] at noFraction ⊢
      omega

/-- Whatever a number covers is rounded to it. -/
theorem round_of_covers {x : Binary64} (finite : x.isFinite) (nonzero : x.significand ≠ 0)
    {num den : ℕ} (denPos : 0 < den) (covered : x.Covers ((num : ℚ) / den)) :
    round x.negative num den = x := by
  have reach := x.reachBelow_le
  have scaled := two_zpow_pos x.scale
  have low := (le_div_iff₀ scaled).mpr covered.low
  have high := (div_le_iff₀ scaled).mpr covered.high
  have odd (isOdd : x.significand % 2 = 1) :=
    And.intro ((lt_div_iff₀ scaled).mpr (covered.odd isOdd).1)
      ((div_lt_iff₀ scaled).mpr (covered.odd isOdd).2)
  have atLeastOne : (1 : ℚ) ≤ x.significand := by exact_mod_cast Nat.one_le_iff_ne_zero.mpr nonzero
  have positive : (0 : ℚ) < num / den := by
    have : (0 : ℚ) < num / den / 2 ^ x.scale := by linarith
    exact (div_pos_iff_of_pos_right scaled).mp this
  have numPos : 0 < num := by
    rw [Nat.pos_iff_ne_zero]
    rintro rfl
    simp at positive
  have limitLow : (2 : ℚ) ^ (52 : ℤ) = 4503599627370496 := by norm_num
  have limitHigh : (2 : ℚ) ^ (53 : ℤ) = 9007199254740992 := by norm_num
  have bound := x.fraction.isLt
  by_cases regular : (2 : ℚ) ^ (52 : ℤ) ≤ num / den / 2 ^ x.scale ∨ x.scale = -1074
  · -- The fraction has the scale of the number itself.
    have significandHigh : (x.significand : ℚ) ≤ 9007199254740991 := by
      have : x.significand ≤ 9007199254740991 := by
        rcases significand_cases finite with ⟨-, equal, -⟩ | ⟨-, -, equal, -⟩ <;> omega
      exact_mod_cast this
    have logHigh : Int.log 2 ((num : ℚ) / den) < x.scale + 53 :=
      log_lt_of_div_lt positive (by rw [limitHigh]; linarith)
    have scale_eq : scaleOf num den = x.scale := by
      rw [scaleOf_eq numPos denPos]
      have scaleLow : -1074 ≤ x.scale := by
        rcases significand_cases finite with ⟨-, -, equal⟩ | ⟨_, -, -, equal⟩ <;> omega
      rcases regular with full | smallest
      · have := le_log_of_le_div positive full
        omega
      · omega
    rw [round_eq_pack numPos denPos scale_eq (by linarith) high
      (fun isOdd => ⟨by linarith [(odd isOdd).1], (odd isOdd).2⟩), pack_significand finite]
  · -- The fraction lies below a power of two, where the scale is the next smaller one.
    rw [not_or, not_le, limitLow] at regular
    rcases regular with ⟨below, notSmallest⟩
    rcases significand_cases finite with ⟨-, -, equal⟩ | ⟨normal, -, significand_eq, scale_eq⟩
    · exact absurd equal notSmallest
    have noFraction : x.fraction.val = 0 := by
      have : (x.significand : ℚ) < 4503599627370497 := by linarith
      have : x.significand < 4503599627370497 := by exact_mod_cast this
      omega
    have second : 1 < x.exponent.val := by omega
    have significand_cast : (x.significand : ℚ) = 4503599627370496 := by
      rw [significand_eq, noFraction]
      norm_num
    rw [reachBelow, if_pos ⟨noFraction, second⟩, significand_cast] at low
    have halved : (num : ℚ) / den / 2 ^ (x.scale - 1) = num / den / 2 ^ x.scale * 2 := by
      rw [zpow_sub₀ (by norm_num), zpow_one, div_div_eq_mul_div, mul_div_right_comm]
    have logLow := le_log_of_le_div (k := 52) positive (e := x.scale - 1)
      (by rw [halved, limitLow]; linarith)
    have logHigh := log_lt_of_div_lt (k := 53) positive (e := x.scale - 1)
      (by rw [halved, limitHigh]; linarith)
    have smaller : scaleOf num den = x.scale - 1 := by
      rw [scaleOf_eq numPos denPos]
      omega
    have packed : round x.negative num den = pack x.negative (2 ^ 53) (x.scale - 1) :=
      round_eq_pack numPos denPos smaller (by rw [halved]; push_cast; linarith)
        (by rw [halved]; push_cast; linarith) (fun isOdd => by norm_num at isOdd) x.negative
    rw [packed, pack_carry finite noFraction second]

/-! ## Numbers in other forms -/

theorem significand_bounds {x : Binary64} (finite : x.isFinite) :
    x.significand < 2 ^ 53 ∧ -1074 ≤ x.scale ∧ x.scale ≤ 971 := by
  have bound := x.fraction.isLt
  rcases significand_cases finite with ⟨-, equal, scale_eq⟩ | ⟨low, high, equal, scale_eq⟩ <;>
    exact ⟨by omega, by omega, by omega⟩

theorem significand_eq_zero_iff (x : Binary64) : x.significand = 0 ↔ x.isZero := by
  rw [significand, isZero, Bool.and_eq_true, beq_iff_eq, beq_iff_eq]
  split
  · rename_i subnormal
    exact ⟨fun none => ⟨subnormal, Fin.ext none⟩, fun none => congrArg Fin.val none.2⟩
  · rename_i normal
    have : 0 < Nat.pow 2 52 := Nat.two_pow_pos _
    exact ⟨fun none => by omega, fun none => absurd none.1 normal⟩

theorem covers_magnitude (x : Binary64) : x.Covers x.magnitude := by
  have scaled := two_zpow_pos x.scale
  have reach := x.reachBelow_pos
  have below : (x.significand - x.reachBelow) * 2 ^ x.scale < x.magnitude :=
    mul_lt_mul_of_pos_right (by linarith) scaled
  have above : x.magnitude < (x.significand + 1 / 2) * 2 ^ x.scale :=
    mul_lt_mul_of_pos_right (by linarith) scaled
  exact ⟨below.le, above.le, fun _ => ⟨below, above⟩⟩

theorem ratio_den_pos (x : Binary64) : 0 < x.ratio.2 := by
  rw [ratio]
  split
  · exact Nat.one_pos
  · exact Nat.two_pow_pos _

theorem ratio_eq_magnitude (x : Binary64) : (x.ratio.1 : ℚ) / x.ratio.2 = x.magnitude := by
  rw [ratio, magnitude]
  split
  · rename_i nonneg
    rw [two_zpow_toNat nonneg, Nat.pow_eq, Nat.cast_mul, Nat.cast_pow, Nat.cast_ofNat,
      Nat.cast_one, div_one]
  · rename_i negative
    have power : (2 : ℚ) ^ x.scale = (2 ^ (-x.scale).toNat)⁻¹ := by
      rw [← two_zpow_toNat (by omega), zpow_neg, inv_inv]
    rw [power, Nat.pow_eq, Nat.cast_pow, Nat.cast_ofNat, div_eq_mul_inv]

/-- Magnitudes that round to finite numbers other than zero have bounds. -/
theorem Covers.bounds {x : Binary64} {v : ℚ} (covered : x.Covers v) (finite : x.isFinite)
    (nonzero : x.significand ≠ 0) : (2 : ℚ) ^ (-1075 : ℤ) ≤ v ∧ v < 2 ^ (1024 : ℤ) := by
  have reach := x.reachBelow_le
  rcases significand_bounds finite with ⟨significandHigh, scaleLow, scaleHigh⟩
  have significandLow : (1 : ℚ) ≤ x.significand := by
    exact_mod_cast Nat.one_le_iff_ne_zero.mpr nonzero
  have significandTop : (x.significand : ℚ) + 1 ≤ 2 ^ (53 : ℤ) := by exact_mod_cast significandHigh
  have smallest : (2 : ℚ) ^ (-1074 : ℤ) ≤ 2 ^ x.scale := zpow_le_zpow_right₀ (by norm_num) scaleLow
  have largest : (2 : ℚ) ^ x.scale ≤ 2 ^ (971 : ℤ) := zpow_le_zpow_right₀ (by norm_num) scaleHigh
  have scaled := two_zpow_pos x.scale
  constructor
  · calc (2 : ℚ) ^ (-1075 : ℤ) = 1 / 2 * 2 ^ (-1074 : ℤ) := by
          rw [show (-1075 : ℤ) = -1 + -1074 by norm_num, zpow_add₀ (by norm_num)]; norm_num
      _ ≤ (x.significand - x.reachBelow) * 2 ^ x.scale := by
          refine mul_le_mul (by linarith) smallest (two_zpow_pos _).le (by linarith)
      _ ≤ v := covered.low
  · calc v ≤ (x.significand + 1 / 2) * 2 ^ x.scale := covered.high
      _ < 2 ^ (53 : ℤ) * 2 ^ x.scale := mul_lt_mul_of_pos_right (by linarith) scaled
      _ ≤ 2 ^ (53 : ℤ) * 2 ^ (971 : ℤ) := by gcongr
      _ = 2 ^ (1024 : ℤ) := by rw [← zpow_add₀ (by norm_num)]; norm_num

theorem magnitude_eq_zero_iff (x : Binary64) : x.magnitude = 0 ↔ x.isZero := by
  rw [← significand_eq_zero_iff, magnitude, mul_eq_zero, Nat.cast_eq_zero,
    or_iff_left (two_zpow_pos _).ne']

theorem toInt_eq (x : Binary64) : x.toInt =
    if x.negative then -((x.ratio.1 / x.ratio.2 : ℕ) : ℤ) else (x.ratio.1 / x.ratio.2 : ℕ) :=
  rfl

/-- The size of a finite number with no fraction part is that of its integer part. -/
theorem natAbs_toInt {x : Binary64} (whole : x.isInteger) : (x.toInt.natAbs : ℚ) = x.magnitude := by
  simp only [isInteger, Bool.and_eq_true, beq_iff_eq] at whole
  have size : x.toInt.natAbs = x.ratio.1 / x.ratio.2 := by
    rw [toInt_eq]
    generalize x.ratio.1 / x.ratio.2 = n
    split <;> simp
  rw [size, ← ratio_eq_magnitude, eq_div_iff (by exact_mod_cast x.ratio_den_pos.ne')]
  exact_mod_cast Nat.div_mul_cancel (Nat.dvd_of_mod_eq_zero whole.2)

theorem toInt_eq_zero_iff {x : Binary64} (whole : x.isInteger) : x.toInt = 0 ↔ x.isZero := by
  rw [← magnitude_eq_zero_iff, ← natAbs_toInt whole, Nat.cast_eq_zero, Int.natAbs_eq_zero]

theorem isInteger_of_isZero {x : Binary64} (none : x.isZero) : x.isInteger := by
  have noRatio : (x.ratio.1 : ℚ) = 0 := by
    have := (ratio_eq_magnitude x).trans (x.magnitude_eq_zero_iff.mpr none)
    exact (div_eq_zero_iff.mp this).resolve_right (by exact_mod_cast x.ratio_den_pos.ne')
  have finite : x.isFinite := by
    rw [isZero, Bool.and_eq_true_iff, beq_iff_eq] at none
    rw [isFinite, none.1]
    rfl
  rw [isInteger, finite, Nat.cast_eq_zero.mp noRatio, Nat.zero_mod]
  rfl

/-- The integer part of a number other than zero has the number's sign. -/
theorem toInt_neg_iff {x : Binary64} (whole : x.isInteger) (nonzero : ¬ x.isZero) :
    x.toInt < 0 ↔ x.negative := by
  have := mt (toInt_eq_zero_iff whole).mp nonzero
  rw [toInt_eq] at this ⊢
  generalize x.ratio.1 / x.ratio.2 = n at this ⊢
  cases sign : x.negative with
  | false => simp
  | true => simp only [sign, if_true, iff_true] at this ⊢; omega

/-- A finite number with no fraction part is the number of its integer part. -/
theorem ofInt_toInt {x : Binary64} (whole : x.isInteger) :
    ofInt x.toInt = if x.isZero then zero else x := by
  by_cases none : x.isZero
  · rw [if_pos none, (toInt_eq_zero_iff whole).mpr none]
    rfl
  · have nonzero : x.significand ≠ 0 := mt x.significand_eq_zero_iff.mp none
    have finite : x.isFinite := (Bool.and_eq_true_iff.mp whole).1
    have sign : decide (x.toInt < 0) = x.negative := by
      rw [Bool.eq_iff_iff, decide_eq_true_iff]
      exact toInt_neg_iff whole none
    rw [if_neg none, ofInt, sign]
    refine round_of_covers finite nonzero Nat.one_pos ?_
    rw [natAbs_toInt whole, Nat.cast_one, div_one]
    exact x.covers_magnitude

/-! ## Decimals -/

theorem ten_zpow_pos (e : ℤ) : (0 : ℚ) < 10 ^ e :=
  zpow_pos (by norm_num) e

theorem ten_zpow_toNat {e : ℤ} (nonneg : 0 ≤ e) : (10 : ℚ) ^ e = 10 ^ e.toNat := by
  rw [← zpow_natCast, Int.toNat_of_nonneg nonneg]

/-- The count of digits of a number tells its size. -/
theorem length_toDigits_bounds {n : ℕ} (positive : 0 < n) :
    (10 : ℚ) ^ (((Nat.toDigits 10 n).length : ℤ) - 1) ≤ n ∧
      (n : ℚ) < 10 ^ ((Nat.toDigits 10 n).length : ℤ) := by
  have lengthPos : 0 < (Nat.toDigits 10 n).length := Nat.length_toDigits_pos
  generalize length_eq : (Nat.toDigits 10 n).length = length at lengthPos ⊢
  constructor
  · rw [ten_zpow_toNat (by omega), show ((length : ℤ) - 1).toNat = length - 1 by omega]
    have low : 10 ^ (length - 1) ≤ n := by
      rcases Nat.eq_zero_or_pos (length - 1) with single | several
      · rw [single]
        exact positive
      · by_contra less
        have := (Nat.length_toDigits_le_iff (by norm_num) several).mpr (Nat.lt_of_not_le less)
        omega
    exact_mod_cast low
  · have high : n < 10 ^ length :=
      (Nat.length_toDigits_le_iff (by norm_num) lengthPos).mp length_eq.le
    exact_mod_cast high

/-- The count of digits and the exponent of a decimal tell its size. -/
theorem decimal_bounds {digits : ℕ} (positive : 0 < digits) (exponent : ℤ) :
    (10 : ℚ) ^ ((Nat.toDigits 10 digits).length + exponent - 1) ≤ digits * 10 ^ exponent ∧
      (digits : ℚ) * 10 ^ exponent < 10 ^ ((Nat.toDigits 10 digits).length + exponent) := by
  have power := ten_zpow_pos exponent
  rcases length_toDigits_bounds positive with ⟨low, high⟩
  generalize ((Nat.toDigits 10 digits).length : ℤ) = length at low high ⊢
  rw [show length + exponent - 1 = length - 1 + exponent by omega, zpow_add₀ (by norm_num),
    zpow_add₀ (by norm_num)]
  exact ⟨mul_le_mul_of_nonneg_right low power.le, mul_lt_mul_of_pos_right high power⟩

/-- A decimal as the fraction that is rounded. -/
theorem exists_fraction (negative : Bool) (digits : ℕ) (exponent : ℤ) :
    ∃ num den : ℕ, 0 < den ∧ (num : ℚ) / den = digits * 10 ^ exponent ∧
      (if 0 ≤ exponent then round negative (digits * Nat.pow 10 exponent.toNat) 1
        else round negative digits (Nat.pow 10 (-exponent).toNat)) = round negative num den := by
  split
  · rename_i nonneg
    refine ⟨_, 1, Nat.one_pos, ?_, rfl⟩
    rw [ten_zpow_toNat nonneg, Nat.pow_eq]
    push_cast
    exact div_one _
  · refine ⟨_, _, Nat.pow_pos (by norm_num), ?_, rfl⟩
    have inverse : (10 : ℚ) ^ exponent = (10 ^ (-exponent).toNat)⁻¹ := by
      rw [← ten_zpow_toNat (by omega), zpow_neg, inv_inv]
    rw [inverse]
    push_cast
    exact div_eq_mul_inv _ _

theorem two_zpow_top_lt : (2 : ℚ) ^ (1024 : ℤ) < 10 ^ (309 : ℤ) := by
  have naturals : 2 ^ 1024 < 10 ^ 309 := by decide +kernel
  exact_mod_cast naturals

theorem lt_two_zpow_bottom : (10 : ℚ) ^ (-324 : ℤ) < 2 ^ (-1075 : ℤ) := by
  have naturals : 2 ^ 1075 < 10 ^ 324 := by decide +kernel
  rw [zpow_neg, zpow_neg, inv_lt_inv₀ (ten_zpow_pos _) (two_zpow_pos _)]
  exact_mod_cast naturals

/-- A decimal that a number covers is read as that number. -/
theorem ofDecimal_of_covers {x : Binary64} (finite : x.isFinite) (nonzero : x.significand ≠ 0)
    {digits : ℕ} {exponent : ℤ} (covered : x.Covers (digits * 10 ^ exponent)) :
    ofDecimal x.negative digits exponent = x := by
  rcases covered.bounds finite nonzero with ⟨bottom, top⟩
  have positive : 0 < digits := by
    rw [Nat.pos_iff_ne_zero]
    rintro rfl
    rw [Nat.cast_zero, zero_mul] at bottom
    exact absurd bottom (two_zpow_pos _).not_ge
  rcases decimal_bounds positive exponent with ⟨low, high⟩
  rcases exists_fraction x.negative digits exponent with ⟨num, den, denPos, value, rounded⟩
  rw [ofDecimal, if_neg positive.ne']
  generalize ((Nat.toDigits 10 digits).length : ℤ) + exponent = length at low high ⊢
  have notHuge : ¬ length > 310 := by
    intro huge
    have : (10 : ℚ) ^ (309 : ℤ) ≤ digits * 10 ^ exponent :=
      (zpow_le_zpow_right₀ (by norm_num) (by omega)).trans low
    exact absurd (this.trans_lt top) two_zpow_top_lt.not_gt
  have notTiny : ¬ length < -324 := by
    intro tiny
    have : digits * (10 : ℚ) ^ exponent < 10 ^ (-324 : ℤ) :=
      high.trans_le (zpow_le_zpow_right₀ (by norm_num) (by omega))
    exact absurd (bottom.trans_lt this) lt_two_zpow_bottom.not_gt
  simp only [if_neg notHuge, if_neg notTiny, rounded]
  exact round_of_covers finite nonzero denPos (value.symm ▸ covered)

end Stencil.Binary64
