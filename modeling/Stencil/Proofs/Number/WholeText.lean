import Stencil.Proofs.Number.Integer
import Stencil.Proofs.Number.Numeral
import Stencil.Proofs.Number.Output

/-!
# Whole numbers in output

Of all whole numbers, one of less than 53 bits covers itself alone.  The search for its shortest
decimal ends at the latest on the grid of whole numbers, so its output form is its numeral.
-/

namespace Stencil

namespace Decimal

theorem exponent_ofMultiple_nonneg (c unit : ℕ) : 0 ≤ (ofMultiple c unit).exponent := by
  have length := List.length_pos_of_ne_nil (Number.digits_ne_nil c)
  rw [show (ofMultiple c unit).exponent = (unit : ℤ) + (Number.digits 10 c).length - 1 from rfl]
  omega

/-- Written without an exponent, a multiple of a power of ten is a numeral. -/
theorem positional_ofMultiple {c : ℕ} (positive : 0 < c) (unit : ℕ) :
    (ofMultiple c unit).positional [] = Number.natText 10 (c * 10 ^ unit) := by
  rcases exists_digits_eq_append c unit with ⟨zeros, split⟩
  rcases Number.exists_digits_eq_cons positive with ⟨first, rest, leading, notZero, -⟩
  have length := congrArg List.length split
  rw [List.length_append, List.length_replicate] at length
  have nonneg := exponent_ofMultiple_nonneg c unit
  have exponent_eq : (ofMultiple c unit).exponent = (unit : ℤ) + (Number.digits 10 c).length - 1 :=
    rfl
  have digits_eq : Number.digits 10 (c * 10 ^ unit) =
      Number.digits 10 c ++ List.replicate unit 0 := by
    have value :
        Number.ofDigitList (Number.digits 10 c ++ List.replicate unit 0) = c * 10 ^ unit := by
      rw [Number.ofDigitList_append, Number.ofDigitList_replicate_zero, List.length_replicate,
        Number.ofDigitList_digits, Nat.add_zero]
    rw [← value]
    refine Number.digits_ofDigitList ?_ ⟨first, rest ++ List.replicate unit 0, ?_, notZero⟩
    · intro d mem
      rcases List.mem_append.mp mem with mem | mem
      · exact Number.lt_of_mem_digits mem
      · have := List.eq_of_mem_replicate mem
        omega
    · rw [leading, List.cons_append]
  have missing : (ofMultiple c unit).exponent.toNat + 1 - (ofMultiple c unit).digits.length =
      zeros + unit := by
    omega
  rw [positional, if_neg (by omega)]
  simp only [if_pos (show (ofMultiple c unit).digits.length ≤
    (ofMultiple c unit).exponent.toNat + 1 by omega), missing]
  rw [List.append_nil, ← text_replicate_zero, ← text_append, ← List.replicate_append_replicate,
    ← List.append_assoc, ← split, ← digits_eq]
  rfl

end Decimal

namespace Binary64

variable {x : Binary64} {n : ℕ}

/-- A number whose unit is at most one covers no other whole number. -/
theorem Covers.eq_of_whole {k : ℕ} (covered : x.Covers k) (whole : x.magnitude = n)
    (fine : x.scale ≤ 0) : k = n := by
  have unit : (2 : ℚ) ^ x.scale ≤ 1 := zpow_le_one_of_nonpos₀ (by norm_num) fine
  have scaled := two_zpow_pos x.scale
  have reach := x.reachBelow_le
  have low := covered.low
  have high := covered.high
  rw [magnitude] at whole
  rw [sub_mul, whole] at low
  rw [add_mul, whole] at high
  have below : x.reachBelow * 2 ^ x.scale ≤ 1 / 2 := by nlinarith
  have lower : (n : ℚ) < k + 1 := by linarith
  have upper : (k : ℚ) < n + 1 := by linarith
  have lower : n < k + 1 := by exact_mod_cast lower
  have upper : k < n + 1 := by exact_mod_cast upper
  omega

/-- A whole number is found on the grid of whole numbers. -/
theorem exists_nearestOnGrid_zero (nonzero : x.significand ≠ 0) (whole : x.magnitude = n)
    (tie : Tie) : ∃ c, x.nearestOnGrid tie 0 = some c := by
  rcases x.belowOnGrid_bounds 0 with ⟨below, above⟩
  rw [whole, zpow_zero, mul_one, Nat.cast_le] at below
  rw [whole, zpow_zero, mul_one, Nat.cast_lt] at above
  have here : x.belowOnGrid 0 = n := by omega
  have inside : x.insideOnGrid 0 (x.belowOnGrid 0) = true := by
    rw [here, insideOnGrid_iff nonzero, zpow_zero, mul_one, ← whole]
    exact x.covers_magnitude
  rcases x.exists_nearestOnGrid_eq tie 0 with ⟨lower, search⟩
  rw [search, inside]
  cases x.insideOnGrid 0 (x.belowOnGrid 0 + 1) <;> exact ⟨_, rfl⟩

/-- The leading digit of a whole number of less than 53 bits stands at one of sixteen places. -/
theorem decimalExponent_of_whole (finite : x.isFinite) (nonzero : x.significand ≠ 0)
    (whole : x.magnitude = n) (small : n < 2 ^ 53) :
    ∃ extra : ℕ, x.decimalExponent = extra ∧ extra < 16 := by
  rcases decimalExponent_bounds finite nonzero with ⟨low, high⟩
  have positive : 0 < n := by
    rw [Nat.pos_iff_ne_zero]
    rintro rfl
    exact nonzero
      (x.significand_eq_zero_iff.mpr (x.magnitude_eq_zero_iff.mp (by simpa using whole)))
  have one : (10 : ℚ) ^ (0 : ℤ) ≤ n := by
    rw [zpow_zero]
    exact_mod_cast positive
  have limit : (n : ℚ) < 10 ^ (16 : ℤ) := by
    have : n < 10 ^ 16 := small.trans (by norm_num)
    exact_mod_cast this
  rw [whole] at low high
  have lower := one.trans_lt high
  have upper := low.trans_lt limit
  rw [zpow_lt_zpow_iff_right₀ (by norm_num)] at lower upper
  exact ⟨x.decimalExponent.toNat, by omega, by omega⟩

/-- The shortest decimal of a whole number is a multiple of a power of ten. -/
theorem exists_shortest_eq_ofMultiple (finite : x.isFinite) (nonzero : x.significand ≠ 0)
    (whole : x.magnitude = n) (fine : x.scale ≤ 0) (small : n < 2 ^ 53) (tie : Tie) :
    ∃ c unit : ℕ, x.shortest tie = Decimal.ofMultiple c unit ∧ c * 10 ^ unit = n := by
  rcases decimalExponent_of_whole finite nonzero whole small with ⟨last, exponent_eq, lastSmall⟩
  rcases exists_nearestOnGrid_zero nonzero whole tie with ⟨nearest, onWhole⟩
  have lastFound : x.candidate? tie last = some (nearest, 0) := by
    rw [candidate?, exponent_eq, sub_self, onWhole]
    rfl
  have isSome : ((List.range 17).findSome? (x.candidate? tie)).isSome := by
    rw [List.findSome?_isSome_iff]
    exact ⟨last, List.mem_range.mpr (by omega), by rw [lastFound]; rfl⟩
  rcases Option.isSome_iff_exists.mp isSome with ⟨⟨c, unit⟩, found⟩
  rcases List.findSome?_eq_some_iff.mp found with ⟨before, extra, after, split, hit, missed⟩
  rcases Option.map_eq_some_iff.mp hit with ⟨_, onGrid, equal⟩
  cases equal
  -- The search stops no later than on the grid of whole numbers.
  have early : extra ≤ last := by
    by_contra late
    have increasing : (before ++ extra :: after).Pairwise (· < ·) := split ▸ List.pairwise_lt_range
    have notAfter : last ∉ after := fun mem =>
      late (List.rel_of_pairwise_cons (List.pairwise_append.mp increasing).2.1 mem).le
    have mem : last ∈ before ++ extra :: after := split ▸ List.mem_range.mpr (by omega)
    rcases List.mem_append.mp mem with mem | mem
    · rw [missed last mem] at lastFound
      cases lastFound
    · rcases List.mem_cons.mp mem with rfl | mem
      · exact late le_rfl
      · exact notAfter mem
  have unit_eq : x.decimalExponent - extra = ((last - extra : ℕ) : ℤ) := by
    omega
  have covered := covers_of_nearestOnGrid nonzero onGrid
  rw [unit_eq, zpow_natCast] at covered
  refine ⟨c, last - extra, ?_, Covers.eq_of_whole (by exact_mod_cast covered) whole fine⟩
  rw [shortest_eq, found, ← unit_eq]
  rfl

/-! ## Numerals -/

theorem magnitude_ofNat (positive : n ≠ 0) (small : n < 2 ^ 53) :
    (ofNat n).isFinite ∧ (ofNat n).negative = false ∧ (ofNat n).scale ≤ 0 ∧
      (ofNat n).magnitude = n :=
  round_one_spec positive small false

/-- The output form of a natural number of less than 53 bits is its numeral. -/
theorem toText_ofNat (small : n < 2 ^ 53) : (ofNat n).toText = Number.numeral n := by
  rcases Nat.eq_zero_or_pos n with rfl | positive
  · rw [Number.numeral, Number.natText_zero]
    rfl
  rcases magnitude_ofNat positive.ne' small with ⟨finite, unsigned, fine, whole⟩
  have notZero : ¬ (ofNat n).isZero := by
    rw [← magnitude_eq_zero_iff, whole]
    exact_mod_cast positive.ne'
  have nonzero := mt (ofNat n).significand_eq_zero_iff.mp notZero
  rcases exists_shortest_eq_ofMultiple finite nonzero whole fine small NumberLayout.output.tie with
    ⟨c, unit, shortest_eq, value⟩
  have cPos : 0 < c := by
    rw [Nat.pos_iff_ne_zero]
    rintro rfl
    rw [Nat.zero_mul] at value
    exact positive.ne value
  rcases (Decimal.ofMultiple_isProper cPos unit).value_bounds with ⟨low, -⟩
  have exponentHigh : (Decimal.ofMultiple c unit).exponent < 16 := by
    rw [Decimal.value_ofMultiple] at low
    have limit : (c : ℚ) * 10 ^ (unit : ℤ) < 10 ^ (16 : ℤ) := by
      have : c * 10 ^ unit < 10 ^ 16 := value ▸ small.trans (by norm_num)
      exact_mod_cast this
    exact (zpow_lt_zpow_iff_right₀ (by norm_num)).mp (low.trans_lt limit)
  have exponentLow := Decimal.exponent_ofMultiple_nonneg c unit
  have isPositional : NumberLayout.output.isPositional (Decimal.ofMultiple c unit).exponent := by
    simp only [NumberLayout.output, Bool.and_eq_true, decide_eq_true_eq]
    omega
  rw [toText_of_isFinite finite notZero, NumberLayout.writeNumber, unsigned]
  simp only [Bool.false_eq_true, if_false]
  rw [Number.numeral, ← value, ← Decimal.positional_ofMultiple cPos, NumberLayout.write, value,
    shortest_eq, if_pos isPositional]
  rfl

end Binary64

end Stencil
