import Mathlib.Data.Nat.Log
import Mathlib.Tactic.Linarith
import Stencil.Number.Binary64
import Stencil.Proofs.Number.Rounding

/-!
# Whole numbers

Every integer of less than 53 bits is a number of the format.  Its fields are those of the
significand shifted to full length, so integers compare as the numbers they become.

Rounding keeps an integer of less than 53 bits, and it sends every other integer to a number that
lies beyond all of those.  So no other integer is rounded to the number of a small one.

The line on which numbers are compared goes by their magnitudes.
-/

namespace Stencil.Binary64

/-- Place on the number line of a natural number of at most 53 bits. -/
def wholeOrder (n : Nat) : Nat :=
  if n = 0 then 0 else (n.log2 + 1022) * 2 ^ 52 + n * 2 ^ (52 - n.log2)

theorem log2_le_of_lt {n : Nat} (nonzero : n ≠ 0) (small : n < 2 ^ 53) : n.log2 ≤ 52 := by
  have := (Nat.log2_lt nonzero).mpr small
  omega

/-- Shifted to full length, a significand has its leading bit at the place of the hidden one. -/
theorem shifted_bounds {n : Nat} (nonzero : n ≠ 0) (small : n < 2 ^ 53) :
    2 ^ 52 ≤ n * 2 ^ (52 - n.log2) ∧ n * 2 ^ (52 - n.log2) < 2 ^ 53 := by
  have length := log2_le_of_lt nonzero small
  have low : 2 ^ n.log2 ≤ n := Nat.log2_self_le nonzero
  have high : n < 2 ^ (n.log2 + 1) := Nat.lt_log2_self
  have positive : 0 < 2 ^ (52 - n.log2) := Nat.two_pow_pos _
  constructor
  · calc
      2 ^ 52 = 2 ^ n.log2 * 2 ^ (52 - n.log2) := by rw [← Nat.pow_add]; congr 1; omega
      _ ≤ n * 2 ^ (52 - n.log2) := Nat.mul_le_mul_right _ low
  · calc
      n * 2 ^ (52 - n.log2) < 2 ^ (n.log2 + 1) * 2 ^ (52 - n.log2) :=
        Nat.mul_lt_mul_of_pos_right high positive
      _ = 2 ^ 53 := by rw [← Nat.pow_add]; congr 1; omega

theorem wholeOrder_lt {m n : Nat} (less : m < n) (small : n < 2 ^ 53) :
    wholeOrder m < wholeOrder n := by
  have nonzero : n ≠ 0 := by omega
  rcases shifted_bounds nonzero small with ⟨low, -⟩
  by_cases zero : m = 0
  · rw [wholeOrder, wholeOrder, if_pos zero, if_neg nonzero]
    omega
  rcases shifted_bounds zero (less.trans small) with ⟨-, high⟩
  rw [wholeOrder, wholeOrder, if_neg zero, if_neg nonzero]
  have lengths : m.log2 ≤ n.log2 :=
    (Nat.le_log2 nonzero).mpr ((Nat.log2_self_le zero).trans less.le)
  rcases lengths.lt_or_eq with shorter | same
  · -- A longer number lies behind the whole range of the shorter one's exponent.
    omega
  · rw [same]
    have := Nat.mul_lt_mul_of_pos_right less (Nat.two_pow_pos (52 - n.log2))
    omega

/-! ## Rounding changes nothing -/

theorem divideToEven_one (n : Nat) : divideToEven n 1 = n := by
  simp [divideToEven, Nat.mod_one]

theorem scaleOf_one {n : Nat} (nonzero : n ≠ 0) (small : n < 2 ^ 53) :
    scaleOf n 1 = (n.log2 : Int) - 52 := by
  have length := log2_le_of_lt nonzero small
  rcases shifted_bounds nonzero small with ⟨low, -⟩
  have logOne : Nat.log2 1 = 0 := by decide
  have shift : (-((n.log2 : Int) - 52)).toNat = 52 - n.log2 := by omega
  simp only [scaleOf, logOne, Int.natCast_zero, sub_zero, one_mul, Nat.div_one, Nat.pow_eq,
    shift]
  rcases length.lt_or_eq with shorter | full
  · rw [if_neg (by omega : ¬ 0 ≤ (n.log2 : Int) - 52), if_neg (Nat.not_lt.mpr low)]
    omega
  · rw [full] at low
    simp only [full]
    norm_num at low ⊢
    omega

/-- The fields of a rounded whole number. -/
theorem round_one {n : Nat} (nonzero : n ≠ 0) (small : n < 2 ^ 53) (negative : Bool) :
    round negative n 1 =
      ⟨negative, Fin.ofNat 2048 (n.log2 + 1023),
        Fin.ofNat 4503599627370496 (n * 2 ^ (52 - n.log2))⟩ := by
  have length := log2_le_of_lt nonzero small
  rcases shifted_bounds nonzero small with ⟨low, high⟩
  have significand : (if 0 ≤ (n.log2 : Int) - 52 then
      divideToEven n (1 * 2 ^ ((n.log2 : Int) - 52).toNat)
      else divideToEven (n * 2 ^ (-((n.log2 : Int) - 52)).toNat) 1) =
        n * 2 ^ (52 - n.log2) := by
    rcases length.lt_or_eq with shorter | full
    · have shift : (-((n.log2 : Int) - 52)).toNat = 52 - n.log2 := by omega
      rw [if_neg (by omega), divideToEven_one, shift]
    · simp [full, divideToEven_one]
  rw [round, if_neg nonzero]
  simp only [scaleOf_one nonzero small, Nat.pow_eq, significand]
  have exponent : ((n.log2 : Int) - 52 + 1075).toNat = n.log2 + 1023 := by omega
  simp only [pack, Nat.pow_eq, exponent]
  rw [if_neg (Nat.not_lt.mpr low), if_neg high.ne, if_neg (by omega), Nat.add_zero]

theorem ofInt_of_ne_zero {n : Int} (nonzero : n ≠ 0) (small : n.natAbs < 2 ^ 53) :
    (ofInt n).isNaN = false ∧
      (ofInt n).order = if n < 0 then -(wholeOrder n.natAbs : Int) else wholeOrder n.natAbs := by
  have sizeNonzero : n.natAbs ≠ 0 := by omega
  have length := log2_le_of_lt sizeNonzero small
  rcases shifted_bounds sizeNonzero small with ⟨low, high⟩
  rw [ofInt, round_one sizeNonzero small, wholeOrder, if_neg sizeNonzero]
  constructor
  · simp only [isNaN, Bool.and_eq_false_iff, beq_eq_false_iff_ne, ne_eq, Fin.ext_iff]
    left
    simp
    omega
  · simp only [order, Fin.val_ofNat, decide_eq_true_eq]
    have exponent : (n.natAbs.log2 + 1023) % 2048 = n.natAbs.log2 + 1023 := by omega
    have fraction : n.natAbs * 2 ^ (52 - n.natAbs.log2) % 4503599627370496 =
        n.natAbs * 2 ^ (52 - n.natAbs.log2) - 2 ^ 52 := by omega
    have place : (n.natAbs.log2 + 1023) * 4503599627370496 +
        (n.natAbs * 2 ^ (52 - n.natAbs.log2) - 2 ^ 52) =
          (n.natAbs.log2 + 1022) * 2 ^ 52 + n.natAbs * 2 ^ (52 - n.natAbs.log2) := by omega
    rw [exponent, fraction, place]

/-! ## Comparison -/

theorem ofInt_isNaN {n : Int} (small : n.natAbs < 2 ^ 53) : (ofInt n).isNaN = false := by
  by_cases zero : n = 0
  · subst zero
    rfl
  · exact (ofInt_of_ne_zero zero small).1

theorem order_ofInt {n : Int} (small : n.natAbs < 2 ^ 53) :
    (ofInt n).order =
      if n < 0 then -(wholeOrder n.natAbs : Int) else wholeOrder n.natAbs := by
  by_cases zero : n = 0
  · subst zero
    rfl
  · exact (ofInt_of_ne_zero zero small).2

theorem order_ofInt_lt {m n : Int} (less : m < n) (smallM : m.natAbs < 2 ^ 53)
    (smallN : n.natAbs < 2 ^ 53) : (ofInt m).order < (ofInt n).order := by
  rw [order_ofInt smallM, order_ofInt smallN]
  by_cases negative : n < 0
  · have := wholeOrder_lt (m := n.natAbs) (n := m.natAbs) (by omega) smallM
    rw [if_pos (by omega), if_pos negative]
    omega
  · by_cases negativeM : m < 0
    · have := wholeOrder_lt (m := 0) (n := m.natAbs) (by omega) smallM
      rw [if_pos negativeM, if_neg negative]
      omega
    · have := wholeOrder_lt (m := m.natAbs) (n := n.natAbs) (by omega) smallN
      rw [if_neg negativeM, if_neg negative]
      omega

/-- Integers of at most 53 bits compare as the numbers nearest to them. -/
theorem lt_ofInt {m n : Int} (smallM : m.natAbs < 2 ^ 53) (smallN : n.natAbs < 2 ^ 53) :
    (ofInt m).lt (ofInt n) = decide (m < n) := by
  rw [lt, ofInt_isNaN smallM, ofInt_isNaN smallN]
  rcases lt_trichotomy m n with less | same | greater
  · simp [less, order_ofInt_lt less smallM smallN]
  · simp [same]
  · have := order_ofInt_lt greater smallN smallM
    simp [greater.not_gt, this.not_gt]

/-! ## Integers that are kept -/

/-- A whole number of less than 53 bits is rounded to itself. -/
theorem round_one_spec {n : ℕ} (nonzero : n ≠ 0) (small : n < 2 ^ 53) (negative : Bool) :
    (round negative n 1).isFinite ∧ (round negative n 1).negative = negative ∧
      (round negative n 1).scale ≤ 0 ∧ (round negative n 1).magnitude = n := by
  have logHigh := log2_le_of_lt nonzero small
  rcases shifted_bounds nonzero small with ⟨low, high⟩
  have fields := round_one nonzero small negative
  generalize round negative n 1 = x at fields ⊢
  have exponent_eq : x.exponent.val = n.log2 + 1023 := by
    rw [fields]
    exact Nat.mod_eq_of_lt (by omega)
  have fraction_eq : x.fraction.val = n * 2 ^ (52 - n.log2) - 2 ^ 52 := by
    rw [fields]
    simp only [Fin.val_ofNat]
    omega
  have finite : x.isFinite := by
    rw [isFinite, bne_iff_ne]
    intro top
    have value := congrArg Fin.val top
    rw [exponent_eq] at value
    change n.log2 + 1023 = 2047 at value
    omega
  rcases significand_cases finite with ⟨zero, -⟩ | ⟨-, -, significand_eq, scale_eq⟩
  · omega
  refine ⟨finite, by rw [fields], by omega, ?_⟩
  have significand_eq : x.significand = n * 2 ^ (52 - n.log2) := by omega
  have power : (2 : ℚ) ^ (52 - n.log2) * 2 ^ x.scale = 1 := by
    rw [← zpow_natCast, ← zpow_add₀ (by norm_num),
      show ((52 - n.log2 : ℕ) : ℤ) + x.scale = 0 by omega, zpow_zero]
  rw [magnitude, significand_eq]
  push_cast
  rw [mul_assoc, power, mul_one]

/-- A natural number of less than 53 bits is kept as it is. -/
theorem ofNat_spec {n : ℕ} (small : n < 2 ^ 53) :
    (ofNat n).isFinite ∧ (ofNat n).negative = false ∧ (ofNat n).magnitude = n := by
  by_cases zero : n = 0
  · subst zero
    exact ⟨rfl, rfl, by rw [Nat.cast_zero, magnitude_eq_zero_iff]; rfl⟩
  · rcases round_one_spec zero small false with ⟨finite, positive, -, magnitude_eq⟩
    exact ⟨finite, positive, magnitude_eq⟩

theorem isInteger_of_magnitude {x : Binary64} {n : ℕ} (finite : x.isFinite)
    (value : x.magnitude = n) : x.isInteger := by
  have multiple : x.ratio.1 = n * x.ratio.2 := by
    rw [← ratio_eq_magnitude, div_eq_iff (by exact_mod_cast x.ratio_den_pos.ne')] at value
    exact_mod_cast value
  rw [isInteger, finite, multiple, Nat.mul_mod_left]
  rfl

theorem isInteger_ofInt {n : ℤ} (small : n.natAbs < 2 ^ 53) : (ofInt n).isInteger := by
  by_cases zero : n = 0
  · rw [zero]
    exact isInteger_of_isZero rfl
  · rcases round_one_spec (Int.natAbs_ne_zero.mpr zero) small (decide (n < 0)) with
      ⟨finite, -, -, value⟩
    exact isInteger_of_magnitude finite value

theorem isFinite_ofInt {n : ℤ} (small : n.natAbs < 2 ^ 53) : (ofInt n).isFinite :=
  Bool.and_elim_left (isInteger_ofInt small)

/-- An integer of less than 53 bits is the integer part of its number. -/
theorem toInt_ofInt {n : ℤ} (small : n.natAbs < 2 ^ 53) : (ofInt n).toInt = n := by
  by_cases zero : n = 0
  · rw [zero]
    exact (toInt_eq_zero_iff (isInteger_of_isZero rfl)).mpr rfl
  · have whole := isInteger_ofInt small
    rcases round_one_spec (Int.natAbs_ne_zero.mpr zero) small (decide (n < 0)) with
      ⟨-, sign, -, value⟩
    have size : (ofInt n).toInt.natAbs = n.natAbs := by
      have cast := (natAbs_toInt whole).trans value
      exact_mod_cast cast
    have nonzero : ¬ (ofInt n).isZero := by
      rw [← toInt_eq_zero_iff whole]
      omega
    have negative : (ofInt n).toInt < 0 ↔ n < 0 := by
      rw [toInt_neg_iff whole nonzero, ofInt, sign, decide_eq_true_iff]
    omega

/-! ## Integers beyond them -/

theorem div_le_divideToEven (num den : ℕ) : num / den ≤ divideToEven num den := by
  rw [divideToEven]
  split <;> omega

/-- A significand of full length has the exponent of its scale at least. -/
theorem exponent_pack {significand : ℕ} (full : 2 ^ 52 ≤ significand) (negative : Bool) (e : ℤ) :
    min 2047 (e + 1075).toNat ≤ (pack negative significand e).exponent.val := by
  rw [pack, if_neg (by rw [Nat.pow_eq]; omega)]
  generalize (if significand = Nat.pow 2 53 then 1 else 0) = carry
  dsimp only
  split
  · exact Nat.min_le_left _ _
  · rw [Fin.val_ofNat, Nat.mod_eq_of_lt (by omega)]
    omega

/-- A whole number of more than 53 bits is rounded to one of that size. -/
theorem exponent_round_one {n : ℕ} (large : 2 ^ 53 ≤ n) (negative : Bool) :
    1076 ≤ (round negative n 1).exponent.val := by
  have positive : 0 < n := (Nat.two_pow_pos 53).trans_le large
  have log_eq : Int.log 2 ((n : ℚ) / (1 : ℕ)) = Nat.log 2 n := by
    rw [Nat.cast_one, div_one, Int.log_natCast]
  have length : 53 ≤ Nat.log 2 n := Nat.le_log_of_pow_le (by norm_num) large
  have scale_eq : scaleOf n 1 = ((Nat.log 2 n - 52 : ℕ) : ℤ) := by
    rw [scaleOf_eq positive Nat.one_pos, log_eq]
    omega
  have full : 2 ^ 52 ≤ divideToEven n (2 ^ (Nat.log 2 n - 52)) := by
    refine le_trans ?_ (div_le_divideToEven _ _)
    rw [Nat.le_div_iff_mul_le (Nat.two_pow_pos _), ← pow_add,
      show 52 + (Nat.log 2 n - 52) = Nat.log 2 n by omega]
    exact Nat.pow_log_le_self 2 positive.ne'
  rw [round, if_neg positive.ne']
  simp only [scale_eq, if_pos (Int.natCast_nonneg _), Int.toNat_natCast, Nat.pow_eq, one_mul]
  refine le_trans ?_ (exponent_pack full negative _)
  omega

theorem natAbs_order (x : Binary64) :
    x.order.natAbs = x.exponent.val * 4503599627370496 + x.fraction.val := by
  rw [order]
  generalize x.exponent.val * 4503599627370496 + x.fraction.val = place
  split <;> omega

theorem wholeOrder_lt_of_lt {n : ℕ} (small : n < 2 ^ 53) : wholeOrder n < 1076 * 2 ^ 52 := by
  rw [wholeOrder]
  split
  · norm_num
  · rename_i nonzero
    have length := log2_le_of_lt nonzero small
    have bounds := shifted_bounds nonzero small
    omega

/-- No other integer is rounded to the number of an integer of less than 53 bits. -/
theorem beq_ofInt_iff {m n : ℤ} (small : n.natAbs < 2 ^ 53) : (ofInt m).beq (ofInt n) ↔ m = n := by
  refine ⟨fun equal => ?_, fun same => by rw [same, beq_self, ofInt_isNaN small]; rfl⟩
  simp only [beq, Bool.and_eq_true, beq_iff_eq] at equal
  rcases lt_or_ge m.natAbs (2 ^ 53) with also | large
  · rcases lt_trichotomy m n with less | same | greater
    · exact absurd equal.2 (order_ofInt_lt less also small).ne
    · exact same
    · exact absurd equal.2 (order_ofInt_lt greater small also).ne'
  · have far : 1076 * 2 ^ 52 ≤ (ofInt m).order.natAbs := by
      have exponent := exponent_round_one large (decide (m < 0))
      rw [natAbs_order, ofInt]
      omega
    have near : (ofInt n).order.natAbs < 1076 * 2 ^ 52 := by
      have place := wholeOrder_lt_of_lt small
      rw [order_ofInt small]
      split <;> omega
    rw [equal.2] at far
    exact absurd near far.not_gt

/-! ## Order and magnitude -/

variable {x y : Binary64}

/-- Numbers that stand further from zero on the line are at least as large. -/
theorem magnitude_le_of_order_le (finite : x.isFinite) (finiteAlso : y.isFinite)
    (further : x.order.natAbs ≤ y.order.natAbs) : x.magnitude ≤ y.magnitude := by
  have bound := x.fraction.isLt
  rw [natAbs_order, natAbs_order] at further
  have near (significand : x.significand ≤ y.significand) (scale : x.scale ≤ y.scale) :
      x.magnitude ≤ y.magnitude := by
    have cast : (x.significand : ℚ) ≤ y.significand := by exact_mod_cast significand
    exact mul_le_mul cast (zpow_le_zpow_right₀ (by norm_num) scale) (two_zpow_pos _).le
      (Nat.cast_nonneg _)
  have far (significand : x.significand ≤ 2 * y.significand) (scale : x.scale + 1 ≤ y.scale) :
      x.magnitude ≤ y.magnitude := by
    have cast : (x.significand : ℚ) ≤ 2 * y.significand := by exact_mod_cast significand
    calc x.magnitude ≤ 2 * y.significand * 2 ^ x.scale :=
          mul_le_mul_of_nonneg_right cast (two_zpow_pos _).le
      _ = y.significand * 2 ^ (x.scale + 1) := by
          rw [zpow_add_one₀ (by norm_num)]
          ring
      _ ≤ y.magnitude :=
          mul_le_mul_of_nonneg_left (zpow_le_zpow_right₀ (by norm_num) scale) (Nat.cast_nonneg _)
  -- Numbers of one exponent differ in their significands alone; the next exponent doubles them.
  rcases significand_cases finite with ⟨_, _, _⟩ | ⟨_, _, _, _⟩ <;>
    rcases significand_cases finiteAlso with ⟨_, _, _⟩ | ⟨_, _, _, _⟩
  · exact near (by omega) (by omega)
  · exact near (by omega) (by omega)
  · omega
  · rcases Nat.lt_or_eq_of_le (show x.exponent.val ≤ y.exponent.val by omega) with less | same
    · exact far (by omega) (by omega)
    · exact near (by omega) (by omega)

/-- A number without its sign is below a positive one of larger magnitude. -/
theorem abs_lt_of_magnitude_lt (finite : x.isFinite) (finiteAlso : y.isFinite)
    (positive : y.negative = false) (less : x.magnitude < y.magnitude) : x.abs.lt y := by
  have closer := mt (magnitude_le_of_order_le finiteAlso finite) less.not_ge
  have order_abs : x.abs.order = x.order.natAbs := by
    rw [natAbs_order]
    rfl
  have order_eq : y.order = y.order.natAbs := by
    rw [natAbs_order, order, if_neg (by rw [positive]; decide)]
  have below : x.abs.order < y.order := by omega
  have isNumber : x.abs.isNaN = false := isNaN_of_isFinite (x := x.abs) finite
  rw [lt, isNumber, isNaN_of_isFinite finiteAlso, decide_eq_true below]
  rfl

/-- A place on the line is a sign and a distance from zero. -/
theorem order_eq (x : Binary64) :
    x.order = if x.negative then -(x.order.natAbs : ℤ) else x.order.natAbs := by
  rw [natAbs_order]
  rfl

theorem order_eq_zero_iff (x : Binary64) : x.order = 0 ↔ x.isZero := by
  have fraction := x.fraction.isLt
  rw [← Int.natAbs_eq_zero, natAbs_order, isZero, Bool.and_eq_true, beq_iff_eq, beq_iff_eq,
    Fin.ext_iff, Fin.ext_iff, Fin.val_zero, Fin.val_zero]
  omega

/-- Apart from the zeros, no two numbers stand at one place. -/
theorem eq_of_order_eq (nonzero : ¬ x.isZero) (same : x.order = y.order) : x = y := by
  have distance := congrArg Int.natAbs same
  have sign : x.negative = y.negative := by
    have place := mt x.order_eq_zero_iff.mp nonzero
    rw [order_eq x, order_eq y, ← distance] at same
    split_ifs at same with first second second
    · rw [first, second]
    · omega
    · omega
    · rw [Bool.eq_false_iff.mpr first, Bool.eq_false_iff.mpr second]
  have fraction := x.fraction.isLt
  have fraction' := y.fraction.isLt
  rw [natAbs_order, natAbs_order] at distance
  rcases x with ⟨_, exponent, _⟩
  rcases y with ⟨_, exponent', _⟩
  simp only [mk.injEq, Fin.ext_iff] at *
  exact ⟨sign, by omega, by omega⟩

end Stencil.Binary64
