import Stencil.Number.Shortest
import Stencil.Proofs.Number.Digits
import Stencil.Proofs.Number.Rounding

/-!
# Shortest decimals

The search for the shortest decimal of a number ends with one that the number covers: on a grid of
seventeen digits, one of the two neighbours of the number always rounds to it.
-/

namespace Stencil

namespace Binary64

/-! ## Grids -/

/-- The two sides of a comparison of `x` with multiples of `10 ^ unit`, in whole numbers. -/
def gridFactors (x : Binary64) (unit : ℤ) : ℕ × ℕ :=
  (Nat.pow 2 (x.scale - 2).toNat * Nat.pow 10 (-unit).toNat,
    Nat.pow 10 unit.toNat * Nat.pow 2 (-(x.scale - 2)).toNat)

/-- Whether a multiple of `10 ^ unit` rounds to a number, in whole numbers. -/
def insideOnGrid (x : Binary64) (unit : ℤ) (c : ℕ) : Bool :=
  let (a, b) := x.gridFactors unit
  let low := (4 * x.significand - (if x.fraction.val = 0 && 1 < x.exponent.val then 1 else 2)) * a
  let high := (4 * x.significand + 2) * a
  if x.significand % 2 = 0 then low ≤ c * b && c * b ≤ high else low < c * b && c * b < high

/-- The multiple of `10 ^ unit` at or below a number. -/
def belowOnGrid (x : Binary64) (unit : ℤ) : ℕ :=
  4 * x.significand * (x.gridFactors unit).1 / (x.gridFactors unit).2

theorem exists_gridFactors_eq (x : Binary64) (unit : ℤ) :
    ∃ common : ℚ, 0 < common ∧ ((x.gridFactors unit).1 : ℚ) = 2 ^ (x.scale - 2) * common ∧
      ((x.gridFactors unit).2 : ℚ) = 10 ^ unit * common := by
  have two : (2 : ℚ) ^ (x.scale - 2) * 2 ^ (-(x.scale - 2)).toNat = 2 ^ (x.scale - 2).toNat := by
    rw [← zpow_natCast, ← zpow_natCast, ← zpow_add₀ (by norm_num)]
    congr 1
    omega
  have ten : (10 : ℚ) ^ unit * 10 ^ (-unit).toNat = 10 ^ unit.toNat := by
    rw [← zpow_natCast, ← zpow_natCast, ← zpow_add₀ (by norm_num)]
    congr 1
    omega
  refine ⟨2 ^ (-(x.scale - 2)).toNat * 10 ^ (-unit).toNat, by positivity, ?_, ?_⟩
  · simp only [gridFactors, Nat.pow_eq]
    push_cast
    rw [← two]
    ring
  · simp only [gridFactors, Nat.pow_eq]
    push_cast
    rw [← ten]
    ring

/-- Both sides of a comparison on the grid are magnitudes with a common factor. -/
theorem exists_common (x : Binary64) (unit : ℤ) :
    ∃ common : ℚ, 0 < common ∧
      (∀ p : ℕ, ((p * (x.gridFactors unit).1 : ℕ) : ℚ) = (p : ℚ) / 4 * 2 ^ x.scale * common) ∧
      ∀ c : ℕ, ((c * (x.gridFactors unit).2 : ℕ) : ℚ) = c * 10 ^ unit * common := by
  rcases x.exists_gridFactors_eq unit with ⟨common, positive, first, second⟩
  have quarter : (2 : ℚ) ^ (x.scale - 2) = 2 ^ x.scale / 4 := by
    rw [zpow_sub₀ (by norm_num)]
    norm_num
  refine ⟨common, positive, fun p => ?_, fun c => ?_⟩
  · rw [Nat.cast_mul, first, quarter]
    ring
  · rw [Nat.cast_mul, second]
    ring

theorem insideOnGrid_iff {x : Binary64} (nonzero : x.significand ≠ 0) (unit : ℤ) (c : ℕ) :
    x.insideOnGrid unit c ↔ x.Covers (c * 10 ^ unit) := by
  rcases x.exists_common unit with ⟨common, positive, magnitudes, multiples⟩
  generalize gap_eq : (if x.fraction.val = 0 && 1 < x.exponent.val then 1 else 2 : ℕ) = gap
  have gap_le : gap ≤ 4 * x.significand := by
    have : gap ≤ 2 := by
      rw [← gap_eq]
      split <;> omega
    omega
  have reach_eq : x.reachBelow = (gap : ℚ) / 4 := by
    rw [reachBelow, ← gap_eq]
    simp only [Bool.and_eq_true, decide_eq_true_eq]
    split <;> norm_num
  have low_eq : ((4 * x.significand - gap : ℕ) : ℚ) / 4 * 2 ^ x.scale =
      (x.significand - x.reachBelow) * 2 ^ x.scale := by
    rw [Nat.cast_sub gap_le, reach_eq]
    push_cast
    ring
  have high_eq : ((4 * x.significand + 2 : ℕ) : ℚ) / 4 * 2 ^ x.scale =
      (x.significand + 1 / 2) * 2 ^ x.scale := by
    push_cast
    ring
  have leLow : (4 * x.significand - gap) * (x.gridFactors unit).1 ≤ c * (x.gridFactors unit).2 ↔
      (x.significand - x.reachBelow) * 2 ^ x.scale ≤ c * 10 ^ unit := by
    rw [← Nat.cast_le (α := ℚ), magnitudes, multiples, low_eq, mul_le_mul_iff_left₀ positive]
  have ltLow : (4 * x.significand - gap) * (x.gridFactors unit).1 < c * (x.gridFactors unit).2 ↔
      (x.significand - x.reachBelow) * 2 ^ x.scale < c * 10 ^ unit := by
    rw [← Nat.cast_lt (α := ℚ), magnitudes, multiples, low_eq, mul_lt_mul_iff_left₀ positive]
  have leHigh : c * (x.gridFactors unit).2 ≤ (4 * x.significand + 2) * (x.gridFactors unit).1 ↔
      (c : ℚ) * 10 ^ unit ≤ (x.significand + 1 / 2) * 2 ^ x.scale := by
    rw [← Nat.cast_le (α := ℚ), magnitudes, multiples, high_eq, mul_le_mul_iff_left₀ positive]
  have ltHigh : c * (x.gridFactors unit).2 < (4 * x.significand + 2) * (x.gridFactors unit).1 ↔
      (c : ℚ) * 10 ^ unit < (x.significand + 1 / 2) * 2 ^ x.scale := by
    rw [← Nat.cast_lt (α := ℚ), magnitudes, multiples, high_eq, mul_lt_mul_iff_left₀ positive]
  simp only [insideOnGrid, gap_eq]
  split
  · rename_i even
    rw [Bool.and_eq_true, decide_eq_true_eq, decide_eq_true_eq, leLow, leHigh]
    exact ⟨fun between => ⟨between.1, between.2, fun odd => by omega⟩,
      fun covered => ⟨covered.low, covered.high⟩⟩
  · rename_i odd
    rw [Bool.and_eq_true, decide_eq_true_eq, decide_eq_true_eq, ltLow, ltHigh]
    exact ⟨fun between => ⟨between.1.le, between.2.le, fun _ => between⟩,
      fun covered => covered.odd (by omega)⟩

/-- The search on a grid tries the neighbours of the number on both sides. -/
theorem exists_nearestOnGrid_eq (x : Binary64) (tie : Tie) (unit : ℤ) :
    ∃ lower : Bool, x.nearestOnGrid tie unit =
      match x.insideOnGrid unit (x.belowOnGrid unit),
        x.insideOnGrid unit (x.belowOnGrid unit + 1) with
      | true, true => some (if lower then x.belowOnGrid unit else x.belowOnGrid unit + 1)
      | true, false => some (x.belowOnGrid unit)
      | false, true => some (x.belowOnGrid unit + 1)
      | false, false => none :=
  ⟨_, rfl⟩

/-- The search on a grid ends with a multiple that rounds to the number. -/
theorem covers_of_nearestOnGrid {x : Binary64} (nonzero : x.significand ≠ 0) {tie : Tie} {unit : ℤ}
    {c : ℕ} (found : x.nearestOnGrid tie unit = some c) : x.Covers (c * 10 ^ unit) := by
  rw [← insideOnGrid_iff nonzero]
  rcases x.exists_nearestOnGrid_eq tie unit with ⟨lower, search⟩
  rw [search] at found
  split at found <;> cases found
  · rename_i below above
    cases lower
    · exact above
    · exact below
  · assumption
  · assumption

/-! ## Fine grids -/

theorem belowOnGrid_bounds (x : Binary64) (unit : ℤ) :
    (x.belowOnGrid unit : ℚ) * 10 ^ unit ≤ x.magnitude ∧
      x.magnitude < (x.belowOnGrid unit + 1 : ℕ) * 10 ^ unit := by
  rcases x.exists_common unit with ⟨common, positive, magnitudes, multiples⟩
  have whole : ((4 * x.significand : ℕ) : ℚ) / 4 * 2 ^ x.scale = x.magnitude := by
    rw [magnitude]
    push_cast
    ring
  have factorPos : 0 < (x.gridFactors unit).2 :=
    Nat.mul_pos (Nat.pow_pos (by norm_num)) (Nat.two_pow_pos _)
  rw [← mul_le_mul_iff_left₀ positive, ← mul_lt_mul_iff_left₀ positive, ← multiples, ← multiples,
    ← whole, ← magnitudes, Nat.cast_le, Nat.cast_lt]
  exact ⟨Nat.div_mul_le_self _ _, (Nat.div_lt_iff_lt_mul factorPos).mp (Nat.lt_succ_self _)⟩

/-- What lies between an end of the reach of a number and the number itself rounds to it. -/
theorem le_low_of_not_covers {x : Binary64} {v : ℚ} (below : v ≤ x.magnitude)
    (outside : ¬ x.Covers v) : v ≤ (x.significand - x.reachBelow) * 2 ^ x.scale := by
  have scaled := two_zpow_pos x.scale
  have high : x.magnitude < (x.significand + 1 / 2) * 2 ^ x.scale :=
    mul_lt_mul_of_pos_right (by linarith) scaled
  by_contra inside
  rw [not_le] at inside
  exact outside ⟨inside.le, by linarith, fun _ => ⟨inside, by linarith⟩⟩

theorem high_le_of_not_covers {x : Binary64} {v : ℚ} (above : x.magnitude ≤ v)
    (outside : ¬ x.Covers v) : (x.significand + 1 / 2) * 2 ^ x.scale ≤ v := by
  have scaled := two_zpow_pos x.scale
  have reach := x.reachBelow_pos
  have low : (x.significand - x.reachBelow) * 2 ^ x.scale < x.magnitude :=
    mul_lt_mul_of_pos_right (by linarith) scaled
  by_contra inside
  rw [not_le] at inside
  exact outside ⟨by linarith, inside.le, fun _ => ⟨by linarith, inside⟩⟩

/-- A grid finer than the reach of a number on both sides has a point that rounds to it. -/
theorem exists_nearestOnGrid {x : Binary64} (nonzero : x.significand ≠ 0) (tie : Tie) {unit : ℤ}
    (fine : (10 : ℚ) ^ unit < (x.reachBelow + 1 / 2) * 2 ^ x.scale) :
    ∃ c, x.nearestOnGrid tie unit = some c := by
  rcases x.belowOnGrid_bounds unit with ⟨below, above⟩
  rcases x.exists_nearestOnGrid_eq tie unit with ⟨lower, search⟩
  rw [search]
  cases insideBelow : x.insideOnGrid unit (x.belowOnGrid unit) with
  | true => cases x.insideOnGrid unit (x.belowOnGrid unit + 1) <;> exact ⟨_, rfl⟩
  | false =>
      cases insideAbove : x.insideOnGrid unit (x.belowOnGrid unit + 1) with
      | true => exact ⟨_, rfl⟩
      | false =>
          have low := le_low_of_not_covers below
            (mt (insideOnGrid_iff nonzero unit _).mpr (by simp [insideBelow]))
          have high := high_le_of_not_covers above.le
            (mt (insideOnGrid_iff nonzero unit _).mpr (by simp [insideAbove]))
          push_cast at high
          have step : (x.reachBelow + 1 / 2) * 2 ^ x.scale ≤ (10 : ℚ) ^ unit := by
            calc (x.reachBelow + 1 / 2) * 2 ^ x.scale
                = (x.significand + 1 / 2) * 2 ^ x.scale -
                    (x.significand - x.reachBelow) * 2 ^ x.scale := by ring
              _ ≤ (x.belowOnGrid unit + 1) * 10 ^ unit - x.belowOnGrid unit * 10 ^ unit :=
                sub_le_sub high low
              _ = 10 ^ unit := by ring
          exact absurd step fine.not_ge

/-! ## Seventeen digits -/

/-- The leading digit of a number stands at its decimal exponent. -/
theorem decimalExponent_bounds {x : Binary64} (finite : x.isFinite) (nonzero : x.significand ≠ 0) :
    (10 : ℚ) ^ x.decimalExponent ≤ x.magnitude ∧
      x.magnitude < 10 ^ (x.decimalExponent + 1) := by
  have denPos : (0 : ℚ) < x.ratio.2 := by exact_mod_cast x.ratio_den_pos
  -- The shift keeps its name so that no step computes its power.
  obtain ⟨shift, shift_eq⟩ : ∃ shift : ℕ, 324 = shift := ⟨324, rfl⟩
  generalize shifted_eq : x.ratio.1 * Nat.pow 10 shift / x.ratio.2 = shifted
  have exponent_eq : x.decimalExponent = ((Number.digits 10 shifted).length : ℤ) - 325 := by
    rw [decimalExponent, ← shifted_eq, shift_eq]
  have cast : ((x.ratio.1 * Nat.pow 10 shift : ℕ) : ℚ) =
      x.magnitude * 10 ^ (shift : ℤ) * x.ratio.2 := by
    rw [← ratio_eq_magnitude, mul_right_comm, div_mul_cancel₀ _ denPos.ne', Nat.cast_mul,
      Nat.pow_eq, Nat.cast_pow, Nat.cast_ofNat, zpow_natCast]
  have low : (shifted : ℚ) ≤ x.magnitude * 10 ^ (shift : ℤ) := by
    have : shifted * x.ratio.2 ≤ x.ratio.1 * Nat.pow 10 shift :=
      shifted_eq ▸ Nat.div_mul_le_self _ _
    rw [← mul_le_mul_iff_left₀ denPos, ← cast]
    exact_mod_cast this
  have high : x.magnitude * 10 ^ (shift : ℤ) < shifted + 1 := by
    have : x.ratio.1 * Nat.pow 10 shift < (shifted + 1) * x.ratio.2 :=
      (Nat.div_lt_iff_lt_mul x.ratio_den_pos).mp (shifted_eq ▸ Nat.lt_succ_self _)
    rw [← mul_lt_mul_iff_left₀ denPos, ← cast]
    exact_mod_cast this
  have positive : 0 < shifted := by
    have bottom := lt_two_zpow_bottom.trans_le (x.covers_magnitude.bounds finite nonzero).1
    have one : (1 : ℚ) < x.magnitude * 10 ^ (shift : ℤ) := by
      calc (1 : ℚ) = 10 ^ (-324 : ℤ) * 10 ^ (shift : ℤ) := by
            rw [← zpow_add₀ (by norm_num), show -324 + (shift : ℤ) = 0 by omega, zpow_zero]
        _ < x.magnitude * 10 ^ (shift : ℤ) := mul_lt_mul_of_pos_right bottom (ten_zpow_pos _)
    have : (0 : ℚ) < shifted := by linarith
    exact_mod_cast this
  rcases Number.length_digits_bounds positive with ⟨digitsLow, digitsHigh⟩
  have lengthPos : 0 < (Number.digits 10 shifted).length := by
    rcases Number.exists_digits_eq_cons positive with ⟨d, rest, split, -⟩
    rw [split]
    exact Nat.succ_pos _
  rw [exponent_eq]
  generalize (Number.digits 10 shifted).length = length at digitsLow digitsHigh lengthPos
  have shiftPos := ten_zpow_pos shift
  constructor
  · have cast : (10 : ℚ) ^ (length - 1) ≤ shifted := by exact_mod_cast digitsLow
    rw [← mul_le_mul_iff_left₀ shiftPos, ← zpow_add₀ (by norm_num),
      show (length : ℤ) - 325 + shift = (length - 1 : ℕ) by omega, zpow_natCast]
    exact cast.trans low
  · have cast : (shifted : ℚ) + 1 ≤ 10 ^ length := by exact_mod_cast digitsHigh
    rw [← mul_lt_mul_iff_left₀ shiftPos, ← zpow_add₀ (by norm_num),
      show (length : ℤ) - 325 + 1 + shift = length by omega, zpow_natCast]
    exact high.trans_le cast

/-- Seventeen digits are enough to tell a number from all others. -/
theorem seventeen_digits {x : Binary64} (finite : x.isFinite) (nonzero : x.significand ≠ 0) :
    (10 : ℚ) ^ (x.decimalExponent - 16) < (x.reachBelow + 1 / 2) * 2 ^ x.scale := by
  have scaled := two_zpow_pos x.scale
  have low := (decimalExponent_bounds finite nonzero).1
  have split : (10 : ℚ) ^ (x.decimalExponent - 16) = 10 ^ x.decimalExponent / 10 ^ 16 := by
    rw [zpow_sub₀ (by norm_num)]
    norm_num
  have size : (x.significand : ℚ) < (x.reachBelow + 1 / 2) * 10 ^ 16 := by
    rw [reachBelow]
    split
    · rename_i smallest
      have : x.significand = 4503599627370496 := by
        rcases significand_cases finite with ⟨zero, -⟩ | ⟨-, -, equal, -⟩ <;> omega
      rw [this]
      norm_num
    · have : x.significand < 9007199254740992 := (significand_bounds finite).1
      have cast : (x.significand : ℚ) < 9007199254740992 := by exact_mod_cast this
      linarith
  calc (10 : ℚ) ^ (x.decimalExponent - 16) ≤ x.significand * 2 ^ x.scale / 10 ^ 16 := by
        rw [split]
        gcongr
        exact low
    _ < (x.reachBelow + 1 / 2) * 10 ^ 16 * 2 ^ x.scale / 10 ^ 16 := by gcongr
    _ = (x.reachBelow + 1 / 2) * 2 ^ x.scale := by ring

end Binary64

/-! ## Decimals -/

namespace Decimal

open Binary64 (ten_zpow_pos)

/-- The number that a decimal stands for. -/
def value (d : Decimal) : ℚ :=
  Number.ofDigitList d.digits * 10 ^ (d.exponent + 1 - d.digits.length)

/-- A decimal whose first digit is not zero. -/
structure IsProper (d : Decimal) : Prop where
  small : ∀ digit ∈ d.digits, digit < 10
  leading : ∃ first rest, d.digits = first :: rest ∧ first ≠ 0

/-- The first digit of a decimal stands at its exponent. -/
theorem IsProper.value_bounds {d : Decimal} (proper : d.IsProper) :
    (10 : ℚ) ^ d.exponent ≤ d.value ∧ d.value < 10 ^ (d.exponent + 1) := by
  rcases proper.leading with ⟨first, rest, digits_eq, notZero⟩
  have low : 10 ^ rest.length ≤ Number.ofDigitList d.digits := by
    rw [digits_eq, Number.ofDigitList_cons]
    exact (Nat.le_mul_of_pos_left _ (Nat.pos_of_ne_zero notZero)).trans (Nat.le_add_right _ _)
  have high : Number.ofDigitList d.digits < 10 ^ (rest.length + 1) := by
    have := Nat.ofDigits_lt_base_pow_length (b := 10) (l := d.digits.reverse) (by norm_num)
      fun digit mem => proper.small digit (List.mem_reverse.mp mem)
    simpa [digits_eq, Number.ofDigitList] using this
  have unit := ten_zpow_pos (d.exponent + 1 - d.digits.length)
  have length : (d.digits.length : ℤ) = rest.length + 1 := by
    rw [digits_eq]
    simp
  have lowCast : (10 : ℚ) ^ (rest.length : ℤ) ≤ Number.ofDigitList d.digits := by
    exact_mod_cast low
  have highCast : (Number.ofDigitList d.digits : ℚ) < 10 ^ ((rest.length : ℤ) + 1) := by
    exact_mod_cast high
  constructor
  · calc (10 : ℚ) ^ d.exponent
        = 10 ^ (rest.length : ℤ) * 10 ^ (d.exponent + 1 - d.digits.length) := by
          rw [← zpow_add₀ (by norm_num)]
          congr 1
          omega
      _ ≤ d.value := mul_le_mul_of_nonneg_right lowCast unit.le
  · calc d.value < 10 ^ ((rest.length : ℤ) + 1) * 10 ^ (d.exponent + 1 - d.digits.length) :=
          mul_lt_mul_of_pos_right highCast unit
      _ = 10 ^ (d.exponent + 1) := by
          rw [← zpow_add₀ (by norm_num)]
          congr 1
          omega

/-- The decimal of a multiple of `10 ^ unit`, without zeros at its end. -/
def ofMultiple (c : ℕ) (unit : ℤ) : Decimal :=
  ⟨((Number.digits 10 c).reverse.dropWhile (· == 0)).reverse,
    unit + (Number.digits 10 c).length - 1⟩

/-- Zeros at the end of digits are left out of a decimal. -/
theorem exists_digits_eq_append (c : ℕ) (unit : ℤ) :
    ∃ zeros, Number.digits 10 c = (ofMultiple c unit).digits ++ List.replicate zeros 0 := by
  refine ⟨((Number.digits 10 c).reverse.takeWhile (· == 0)).length, ?_⟩
  have zeros : (Number.digits 10 c).reverse.takeWhile (· == 0) =
      List.replicate ((Number.digits 10 c).reverse.takeWhile (· == 0)).length 0 :=
    List.eq_replicate_of_mem fun d mem => by
      simpa using List.all_eq_true.mp List.all_takeWhile d mem
  rw [ofMultiple, ← List.reverse_replicate, ← zeros, ← List.reverse_append,
    List.takeWhile_append_dropWhile, List.reverse_reverse]

theorem value_ofMultiple (c : ℕ) (unit : ℤ) : (ofMultiple c unit).value = c * 10 ^ unit := by
  rcases exists_digits_eq_append c unit with ⟨zeros, split⟩
  have number := Number.ofDigitList_digits c
  have length := congrArg List.length split
  rw [split, Number.ofDigitList_append, Number.ofDigitList_replicate_zero, List.length_replicate,
    Nat.add_zero] at number
  rw [List.length_append, List.length_replicate] at length
  have exponent_eq : (ofMultiple c unit).exponent + 1 - ((ofMultiple c unit).digits.length : ℤ) =
      zeros + unit := by
    rw [show (ofMultiple c unit).exponent = unit + (Number.digits 10 c).length - 1 from rfl]
    omega
  have cast : (Number.ofDigitList (ofMultiple c unit).digits : ℚ) * 10 ^ zeros = c := by
    exact_mod_cast number
  rw [value, exponent_eq, zpow_add₀ (by norm_num), ← mul_assoc, zpow_natCast, cast]

theorem ofMultiple_isProper {c : ℕ} (positive : 0 < c) (unit : ℤ) :
    (ofMultiple c unit).IsProper where
  small digit mem := by
    rcases exists_digits_eq_append c unit with ⟨zeros, split⟩
    exact Number.lt_of_mem_digits (split ▸ List.mem_append_left _ mem)
  leading := by
    rcases exists_digits_eq_append c unit with ⟨zeros, split⟩
    rcases Number.exists_digits_eq_cons positive with ⟨first, rest, digits_eq, notZero, -⟩
    rw [digits_eq] at split
    cases kept : (ofMultiple c unit).digits with
    | nil =>
        rw [kept, List.nil_append] at split
        have : first ∈ List.replicate zeros 0 := split ▸ List.mem_cons_self
        exact absurd (List.eq_of_mem_replicate this) notZero
    | cons d others =>
        rw [kept, List.cons_append] at split
        exact ⟨d, others, rfl, (List.cons.inj split).1 ▸ notZero⟩

end Decimal

namespace Binary64

/-- The nearest multiple that rounds to a number on the grid `extra` digits below its first one. -/
def candidate? (x : Binary64) (tie : Tie) (extra : ℕ) : Option (ℕ × ℤ) :=
  (x.nearestOnGrid tie (x.decimalExponent - extra)).map fun c =>
    (c, x.decimalExponent - (extra : ℤ))

theorem shortest_eq (x : Binary64) (tie : Tie) :
    x.shortest tie =
      Decimal.ofMultiple (((List.range 17).findSome? (x.candidate? tie)).getD (0, 0)).1
        (((List.range 17).findSome? (x.candidate? tie)).getD (0, 0)).2 :=
  rfl

/-- The shortest decimal of a number rounds to it. -/
theorem shortest_spec {x : Binary64} (finite : x.isFinite) (nonzero : x.significand ≠ 0)
    (tie : Tie) : (x.shortest tie).IsProper ∧ x.Covers (x.shortest tie).value := by
  rcases exists_nearestOnGrid nonzero tie (seventeen_digits finite nonzero) with ⟨last, lastFound⟩
  have isSome : ((List.range 17).findSome? (x.candidate? tie)).isSome := by
    rw [List.findSome?_isSome_iff]
    exact ⟨16, by simp, by simp [candidate?, lastFound]⟩
  rcases Option.isSome_iff_exists.mp isSome with ⟨⟨c, unit⟩, found⟩
  rcases List.exists_of_findSome?_eq_some found with ⟨extra, -, hit⟩
  rcases Option.map_eq_some_iff.mp hit with ⟨_, nearest, equal⟩
  cases equal
  have covered := covers_of_nearestOnGrid nonzero nearest
  have positive : 0 < c := by
    rw [Nat.pos_iff_ne_zero]
    rintro rfl
    have bottom := (covered.bounds finite nonzero).1
    rw [Nat.cast_zero, zero_mul] at bottom
    exact absurd bottom (two_zpow_pos _).not_ge
  rw [shortest_eq, found]
  exact ⟨Decimal.ofMultiple_isProper positive _, (Decimal.value_ofMultiple c _).symm ▸ covered⟩

/-- The exponents of shortest decimals have at most three digits. -/
theorem shortest_exponent_bounds {x : Binary64} (finite : x.isFinite) (nonzero : x.significand ≠ 0)
    (tie : Tie) : -325 ≤ (x.shortest tie).exponent ∧ (x.shortest tie).exponent < 309 := by
  rcases shortest_spec finite nonzero tie with ⟨proper, covered⟩
  rcases proper.value_bounds with ⟨low, high⟩
  rcases covered.bounds finite nonzero with ⟨bottom, top⟩
  have bottomPower := (lt_two_zpow_bottom.trans_le bottom).trans high
  have topPower := (low.trans_lt top).trans two_zpow_top_lt
  rw [zpow_lt_zpow_iff_right₀ (by norm_num)] at bottomPower topPower
  omega

end Binary64

end Stencil
