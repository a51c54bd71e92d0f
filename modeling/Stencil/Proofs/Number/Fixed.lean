import Mathlib.Data.Nat.Cast.Field
import Stencil.Number.Fixed
import Stencil.Proofs.Number.Layout

/-!
# Rounded digits

Long division spells a fraction cut off behind any digit, and raising the last digit kept adds one
to the number that the digits spell.  So the digits of a number with a fixed count of fraction
digits spell the nearest multiple of the last place, and a half goes up.
-/

namespace Stencil

namespace Number

variable {den rest : ℕ} {digits first second : List ℕ}

/-! ## Long division -/

@[simp]
theorem length_fractionDigits (den count rest : ℕ) :
    (fractionDigits den count rest).length = count := by
  induction count generalizing rest with
  | zero => rfl
  | succ count ih => rw [fractionDigits, List.length_cons, ih]

theorem lt_of_mem_fractionDigits (less : rest < den) {count digit : ℕ}
    (mem : digit ∈ fractionDigits den count rest) : digit < 10 := by
  induction count generalizing rest with
  | zero => cases mem
  | succ count ih =>
      rcases List.mem_cons.mp mem with rfl | mem
      · exact (Nat.div_lt_iff_lt_mul (by omega)).mpr (by omega)
      · exact ih (Nat.mod_lt _ (by omega)) mem

/-- Long division goes on with what is left. -/
theorem fractionDigits_add (less : rest < den) (count more : ℕ) :
    fractionDigits den (count + more) rest =
      fractionDigits den count rest ++ fractionDigits den more (rest * 10 ^ count % den) := by
  induction count generalizing rest with
  | zero => rw [Nat.zero_add, Nat.pow_zero, Nat.mul_one, Nat.mod_eq_of_lt less]; rfl
  | succ count ih =>
      rw [Nat.add_right_comm, fractionDigits,
        ih (Nat.mod_lt _ (by omega)), fractionDigits, List.cons_append, Nat.mod_mul_mod,
        Nat.mul_assoc, ← Nat.pow_succ']

/-- Cut off behind any digit, long division spells the quotient without its fraction. -/
theorem ofDigitList_fractionDigits (less : rest < den) (count : ℕ) :
    ofDigitList (fractionDigits den count rest) = rest * 10 ^ count / den := by
  induction count generalizing rest with
  | zero => rw [Nat.pow_zero, Nat.mul_one, Nat.div_eq_of_lt less]; rfl
  | succ count ih =>
      have positive : 0 < den := by omega
      have division := Nat.div_add_mod (rest * 10) den
      rw [fractionDigits, ofDigitList_cons, length_fractionDigits, ih (Nat.mod_lt _ positive),
        Nat.pow_succ', ← Nat.mul_assoc]
      conv_rhs => rw [← division, Nat.add_mul, Nat.mul_assoc, Nat.mul_add_div positive]

/-- The next digit of a quotient says whether what is left of it is a half at least. -/
theorem five_le_iff (positive : 0 < den) (rest : ℕ) : 5 ≤ rest * 10 / den ↔ den ≤ 2 * rest := by
  rw [Nat.le_div_iff_mul_le positive]
  omega

/-! ## Raised digits -/

theorem increment_cons (digit : ℕ) (rest : List ℕ) :
    increment (digit :: rest) =
      if (increment rest).1 then
        if digit = 9 then (true, 0 :: (increment rest).2)
        else (false, (digit + 1) :: (increment rest).2)
      else (false, digit :: (increment rest).2) := by
  rw [increment]
  rcases increment rest with ⟨carry, raised⟩
  cases carry <;> rfl

theorem length_increment (digits : List ℕ) : (increment digits).2.length = digits.length := by
  induction digits with
  | nil => rfl
  | cons digit rest ih =>
      rw [increment_cons, List.length_cons, ← ih]
      split_ifs <;> rfl

theorem lt_of_mem_increment (small : ∀ digit ∈ digits, digit < 10) :
    ∀ digit ∈ (increment digits).2, digit < 10 := by
  induction digits with
  | nil => exact nofun
  | cons digit rest ih =>
      rw [List.forall_mem_cons] at small
      rw [increment_cons]
      split_ifs <;> exact List.forall_mem_cons.mpr ⟨by omega, ih small.2⟩

/-- Raised digits spell one more, the carry included. -/
theorem ofDigitList_increment (digits : List ℕ) :
    (increment digits).1.toNat * 10 ^ digits.length + ofDigitList (increment digits).2 =
      ofDigitList digits + 1 := by
  induction digits with
  | nil => rfl
  | cons digit rest ih =>
      have length := length_increment rest
      rw [increment_cons, ofDigitList_cons digit rest]
      split_ifs with carry nine
      · rw [carry] at ih
        rw [ofDigitList_cons, length, nine, List.length_cons, Nat.pow_succ]
        simp only [Bool.toNat_true] at ih ⊢
        omega
      · rw [carry] at ih
        rw [ofDigitList_cons, length, Nat.succ_mul]
        simp only [Bool.toNat_true, Bool.toNat_false] at ih ⊢
        omega
      · rw [Bool.not_eq_true] at carry
        rw [carry] at ih
        rw [ofDigitList_cons, length]
        simp only [Bool.toNat_false] at ih ⊢
        omega

/-- A carry out of the last digits goes on into the first ones. -/
theorem increment_append (first second : List ℕ) :
    increment (first ++ second) =
      if (increment second).1 then
        ((increment first).1, (increment first).2 ++ (increment second).2)
      else (false, first ++ (increment second).2) := by
  induction first with
  | nil =>
      rw [List.nil_append]
      rcases increment second with ⟨carry, raised⟩
      cases carry <;> rfl
  | cons digit first ih =>
      rw [List.cons_append, increment_cons, ih, increment_cons]
      by_cases carry : (increment second).1 = true
      · simp only [if_pos carry]
        split_ifs <;> rfl
      · simp only [if_neg carry, Bool.false_eq_true, if_false, List.cons_append]

theorem raise_eq (digits : List ℕ) :
    raise digits =
      if (increment digits).1 then 1 :: (increment digits).2 else (increment digits).2 := by
  rw [raise]
  rcases increment digits with ⟨carry, raised⟩
  cases carry <;> rfl

theorem lt_of_mem_raise (small : ∀ digit ∈ digits, digit < 10) :
    ∀ digit ∈ raise digits, digit < 10 := by
  rw [raise_eq]
  split_ifs
  · exact List.forall_mem_cons.mpr ⟨by decide, lt_of_mem_increment small⟩
  · exact lt_of_mem_increment small

theorem ofDigitList_raise (digits : List ℕ) :
    ofDigitList (raise digits) = ofDigitList digits + 1 := by
  have value := ofDigitList_increment digits
  rw [raise_eq]
  split_ifs with carry
  · rw [carry] at value
    rw [ofDigitList_cons, length_increment]
    exact value
  · rw [Bool.not_eq_true] at carry
    simpa [carry] using value

/-- Digits that begin with a zero only if they are that zero. -/
def IsNumeral (digits : List ℕ) : Prop :=
  digits = [0] ∨ ∃ first rest, digits = first :: rest ∧ first ≠ 0

theorem isNumeral_digits (n : ℕ) : IsNumeral (Number.digits 10 n) := by
  rcases Nat.eq_zero_or_pos n with rfl | positive
  · exact .inl (digits_zero 10)
  · rcases exists_digits_eq_cons positive with ⟨first, rest, split, notZero, -⟩
    exact .inr ⟨first, rest, split, notZero⟩

theorem isNumeral_raise (numeral : IsNumeral digits) : IsNumeral (raise digits) := by
  rcases numeral with rfl | ⟨first, rest, rfl, notZero⟩
  · exact .inr ⟨1, [], rfl, by decide⟩
  · rw [raise_eq, increment_cons]
    by_cases carry : (increment rest).1 = true
    · rw [if_pos carry]
      by_cases nine : first = 9
      · rw [if_pos nine]
        exact .inr ⟨1, _, rfl, by decide⟩
      · rw [if_neg nine]
        exact .inr ⟨first + 1, _, rfl, by omega⟩
    · rw [if_neg carry]
      exact .inr ⟨first, _, rfl, notZero⟩

/-- Raising digits keeps the count of those behind a point. -/
theorem exists_raise_append (numeral : IsNumeral first) (second : List ℕ) :
    ∃ whole fraction, raise (first ++ second) = whole ++ fraction ∧ IsNumeral whole ∧
      fraction.length = second.length := by
  have length := length_increment second
  have raised := isNumeral_raise numeral
  rw [raise_eq] at raised ⊢
  rw [increment_append]
  by_cases carry : (increment second).1 = true
  · rw [if_pos carry]
    refine ⟨_, _, ?_, raised, length⟩
    split_ifs <;> rfl
  · rw [if_neg carry]
    exact ⟨_, _, rfl, numeral, length⟩

end Number

namespace Binary64

open Number (ofDigitList fractionDigits)

/-- Rounding half up in whole numbers. -/
theorem half_up_div {n den : ℕ} (positive : 0 < den) :
    (2 * n + den) / (2 * den) = n / den + if den ≤ 2 * (n % den) then 1 else 0 := by
  have division := Nat.div_add_mod n den
  have remainder := Nat.mod_lt n positive
  have split : 2 * n + den = 2 * den * (n / den) + (2 * (n % den) + den) := by
    conv_lhs => rw [← division]
    ring
  rw [split, Nat.mul_add_div (by omega)]
  congr 1
  split_ifs with half
  · exact Nat.div_eq_of_lt_le (by omega) (by omega)
  · exact Nat.div_eq_of_lt (by omega)

theorem floor_magnitude (x : Binary64) (places : ℕ) :
    ⌊x.magnitude * 10 ^ places + 1 / 2⌋₊ =
      (2 * (x.ratio.1 * 10 ^ places) + x.ratio.2) / (2 * x.ratio.2) := by
  have den : (x.ratio.2 : ℚ) ≠ 0 := by exact_mod_cast x.ratio_den_pos.ne'
  have fraction : x.magnitude * 10 ^ places + 1 / 2 =
      ((2 * (x.ratio.1 * 10 ^ places) + x.ratio.2 : ℕ) : ℚ) / ((2 * x.ratio.2 : ℕ) : ℚ) := by
    rw [← ratio_eq_magnitude]
    push_cast
    field_simp
  rw [fraction, Nat.floor_div_eq_div]

theorem expansion_eq (x : Binary64) : x.expansion =
    (Number.digits 10 (x.ratio.1 / x.ratio.2),
      fractionDigits x.ratio.2 1074 (x.ratio.1 % x.ratio.2)) :=
  rfl

/-- The digits of a number up to a place behind the point. -/
def cutOff (x : Binary64) (places : ℕ) : List ℕ :=
  Number.digits 10 (x.ratio.1 / x.ratio.2) ++
    fractionDigits x.ratio.2 places (x.ratio.1 % x.ratio.2)

/-- The digits kept are raised if what is left out is a half at least. -/
theorem fixedDigits_eq (x : Binary64) {places : ℕ} (few : places < 1074) :
    x.fixedDigits places =
      if x.ratio.2 ≤ 2 * (x.ratio.1 * 10 ^ places % x.ratio.2) then Number.raise (x.cutOff places)
      else x.cutOff places := by
  have positive := x.ratio_den_pos
  rw [fixedDigits, expansion_eq, cutOff]
  generalize x.ratio.1 = num at *
  generalize x.ratio.2 = den at *
  generalize next_eq : num * 10 ^ places % den * 10 / den = next
  have split : ∃ more, fractionDigits den 1074 (num % den) =
      fractionDigits den places (num % den) ++ next :: more := by
    refine ⟨fractionDigits den (1073 - places) (num * 10 ^ places % den * 10 % den), ?_⟩
    rw [show 1074 = places + (1073 - places + 1) by omega,
      Number.fractionDigits_add (Nat.mod_lt num positive), Number.fractionDigits, Nat.mod_mul_mod,
      next_eq]
  rcases split with ⟨more, split⟩
  have length := Number.length_fractionDigits den places (num % den)
  have kept : (fractionDigits den places (num % den) ++ next :: more ++
      List.replicate places 0).take places = fractionDigits den places (num % den) := by
    rw [List.append_assoc, List.take_left' length]
  have leftOut : (fractionDigits den places (num % den) ++ next :: more)[places]? = some next := by
    rw [List.getElem?_append_right (Nat.le_of_eq length), length, Nat.sub_self]
    rfl
  have half : 5 ≤ next ↔ den ≤ 2 * (num * 10 ^ places % den) :=
    next_eq ▸ Number.five_le_iff positive _
  simp only [split, kept, leftOut, Option.any_some, decide_eq_true_eq, half]

theorem ofDigitList_cutOff (x : Binary64) (places : ℕ) :
    ofDigitList (x.cutOff places) = x.ratio.1 * 10 ^ places / x.ratio.2 := by
  have positive := x.ratio_den_pos
  rw [cutOff, Number.ofDigitList_append, Number.ofDigitList_digits, Number.length_fractionDigits,
    Number.ofDigitList_fractionDigits (Nat.mod_lt _ positive)]
  conv_rhs => rw [← Nat.div_add_mod x.ratio.1 x.ratio.2, Nat.add_mul, Nat.mul_assoc,
    Nat.mul_add_div positive]

theorem lt_of_mem_cutOff {x : Binary64} {places digit : ℕ} (mem : digit ∈ x.cutOff places) :
    digit < 10 := by
  rcases List.mem_append.mp mem with mem | mem
  · exact Number.lt_of_mem_digits mem
  · exact Number.lt_of_mem_fractionDigits (Nat.mod_lt _ x.ratio_den_pos) mem

/-- The digits of a number with a fixed count of them behind the point spell it to the nearest unit
of the last place, and a half goes up. -/
theorem exists_fixedDigits_eq (x : Binary64) {places : ℕ} (few : places < 1074) :
    ∃ whole fraction, x.fixedDigits places = whole ++ fraction ∧ Number.IsNumeral whole ∧
      fraction.length = places ∧ (∀ digit ∈ whole ++ fraction, digit < 10) ∧
      ofDigitList (whole ++ fraction) = ⌊x.magnitude * 10 ^ places + 1 / 2⌋₊ := by
  have value := x.ofDigitList_cutOff places
  have numeral := Number.isNumeral_digits (x.ratio.1 / x.ratio.2)
  have length := Number.length_fractionDigits x.ratio.2 places (x.ratio.1 % x.ratio.2)
  rw [floor_magnitude, half_up_div x.ratio_den_pos, fixedDigits_eq x few]
  split_ifs with half
  · rcases Number.exists_raise_append numeral (fractionDigits x.ratio.2 places _) with
      ⟨whole, fraction, raised, numeral, same⟩
    refine ⟨whole, fraction, raised, numeral, same.trans length, ?_, ?_⟩
    · rw [← raised]
      exact Number.lt_of_mem_raise fun _ => lt_of_mem_cutOff
    · rw [← raised, Number.ofDigitList_raise]
      exact congrArg Nat.succ value
  · exact ⟨_, _, rfl, numeral, length, fun _ => lt_of_mem_cutOff, value⟩

/-- A number with a fixed count of fraction digits is spelled by exactly that many of them behind
the point, and the spelling stands for the nearest multiple of the last place. -/
theorem exists_toFixed_eq (x : Binary64) {places : ℕ} (few : places < 1074) :
    ∃ s : Spelling, s.IsProper ∧ s.exponent = none ∧ s.fraction.length = places ∧
      s.value = ⌊x.magnitude * 10 ^ places + 1 / 2⌋₊ / 10 ^ places ∧
      x.toFixed places = String.ofList ((if x.lt zero then ['-'] else []) ++ s.text) := by
  rcases x.exists_fixedDigits_eq few with ⟨whole, fraction, split, leading, length, small, value⟩
  refine ⟨⟨whole, fraction, none⟩, ⟨small, leading⟩, rfl, length, ?_, ?_⟩
  · rw [Spelling.value, value, Option.getD_none, length, zero_sub, zpow_neg, zpow_natCast]
    exact (div_eq_mul_inv _ _).symm
  · have front : (whole ++ fraction).length - places = whole.length := by
      rw [List.length_append, length, Nat.add_sub_cancel]
    have body : (if places = 0 then Decimal.text whole
        else Decimal.text whole ++ '.' :: Decimal.text fraction) =
          Spelling.text ⟨whole, fraction, none⟩ := by
      simp only [Spelling.text, Spelling.fractionText, Spelling.exponentText, List.append_nil,
        List.isEmpty_iff, ← List.length_eq_zero_iff, length]
      split <;> simp
    rw [toFixed, split]
    simp only [front, List.take_left, List.drop_left, body]
    split <;> rfl

end Binary64

end Stencil
