import Mathlib.Data.Nat.Digits.Lemmas
import Stencil.Proofs.Text.Utf8
import Stencil.Number.Digits
import Stencil.Text.CharClass

/-!
# Digits and their numbers

The digits of a number, most significant first, are those of its positional representation.  Written
as characters, they spell the number again.
-/

namespace Stencil.Number

open Text (isDigit digitValue? ofDigits)

/-! ## Digits -/

theorem digitsBefore_eq {base n : Nat} (several : 1 < base) (positive : 0 < n) (tail : List Nat) :
    digitsBefore base n tail = (Nat.digits base n).reverse ++ tail := by
  induction n using Nat.strongRecOn generalizing tail with
  | ind n ih =>
      rw [digitsBefore, Nat.digits_def' several positive]
      by_cases small : n < base
      · rw [if_pos (.inr small), Nat.mod_eq_of_lt small, Nat.div_eq_of_lt small]
        simp
      · have quotientPos : 0 < n / base := Nat.div_pos (by omega) (by omega)
        rw [if_neg (by omega), ih (n / base) (Nat.div_lt_self positive several) quotientPos]
        simp

theorem digits_eq {base n : Nat} (several : 1 < base) (positive : 0 < n) :
    digits base n = (Nat.digits base n).reverse := by
  rw [digits, digitsBefore_eq several positive, List.append_nil]

theorem digits_zero (base : Nat) : digits base 0 = [0] := by
  rw [digits, digitsBefore, if_pos (by omega)]

/-- The number that digits stand for. -/
def ofDigitList (digits : List Nat) : Nat :=
  Nat.ofDigits 10 digits.reverse

theorem ofDigitList_digits (n : Nat) : ofDigitList (digits 10 n) = n := by
  rcases Nat.eq_zero_or_pos n with rfl | positive
  · rw [digits_zero]
    rfl
  · rw [ofDigitList, digits_eq (by norm_num) positive, List.reverse_reverse, Nat.ofDigits_digits]

theorem lt_of_mem_digits {n d : Nat} (mem : d ∈ digits 10 n) : d < 10 := by
  rcases Nat.eq_zero_or_pos n with rfl | positive
  · rw [digits_zero, List.mem_singleton] at mem
    omega
  · rw [digits_eq (by norm_num) positive, List.mem_reverse] at mem
    exact Nat.digits_lt_base (by norm_num) mem

theorem ofDigitList_append (first second : List Nat) :
    ofDigitList (first ++ second) =
      ofDigitList first * 10 ^ second.length + ofDigitList second := by
  rw [ofDigitList, List.reverse_append, Nat.ofDigits_append, List.length_reverse, Nat.add_comm,
    Nat.mul_comm]
  rfl

theorem ofDigitList_cons (digit : Nat) (rest : List Nat) :
    ofDigitList (digit :: rest) = digit * 10 ^ rest.length + ofDigitList rest := by
  rw [← List.singleton_append, ofDigitList_append]
  simp [ofDigitList]

theorem ofDigitList_replicate_zero (count : Nat) : ofDigitList (List.replicate count 0) = 0 := by
  rw [ofDigitList, List.reverse_replicate, Nat.ofDigits_replicate_zero]

/-! ## Digits as characters -/

theorem toNat_digitChar {d : Nat} (small : d < 10) : (digitChar d).toNat = 48 + d := by
  rw [digitChar, if_pos small, Text.toNat_ofNat (.inl (by omega))]

theorem digitChar_lt_iff {d e : Nat} (small : d < 10) (small' : e < 10) :
    digitChar d < digitChar e ↔ d < e := by
  rw [Char.lt_def, UInt32.lt_iff_toNat_lt]
  have left := toNat_digitChar small
  have right := toNat_digitChar small'
  simp only [Char.toNat] at left right
  omega

theorem digitChar_inj {d e : Nat} (small : d < 10) (small' : e < 10) :
    digitChar d = digitChar e ↔ d = e := by
  rw [← Char.toNat_inj, toNat_digitChar small, toNat_digitChar small']
  omega

theorem isDigit_digitChar {d : Nat} (small : d < 10) : isDigit (digitChar d) = true := by
  rw [isDigit, toNat_digitChar small, Bool.and_eq_true, decide_eq_true_eq, decide_eq_true_eq]
  omega

theorem digitValue?_digitChar {d : Nat} (small : d < 10) : digitValue? (digitChar d) = some d := by
  rw [digitValue?, if_pos (isDigit_digitChar small), toNat_digitChar small, Nat.add_sub_cancel_left]

theorem ofDigits_map_digitChar {digits : List Nat} (small : ∀ d ∈ digits, d < 10) :
    ofDigits 10 (digits.map digitChar) = ofDigitList digits := by
  induction digits using List.reverseRecOn with
  | nil => rfl
  | append_singleton digits d ih =>
      have last : d < 10 := small d (by simp)
      rw [List.map_append, ofDigits, List.foldl_append, ← ofDigits,
        ih fun e mem => small e (List.mem_append_left _ mem), ofDigitList_append]
      simp [digitValue?_digitChar last, ofDigitList]

theorem all_isDigit_map_digitChar {digits : List Nat} (small : ∀ d ∈ digits, d < 10) :
    ∀ c ∈ digits.map digitChar, isDigit c = true := by
  intro c mem
  rcases List.mem_map.mp mem with ⟨d, dMem, rfl⟩
  exact isDigit_digitChar (small d dMem)

/-! ## Written numbers -/

theorem all_isDigit_natText (n : Nat) : ∀ c ∈ natText 10 n, isDigit c = true :=
  all_isDigit_map_digitChar fun _ mem => lt_of_mem_digits mem

/-- The text of a number spells it. -/
theorem ofDigits_natText (n : Nat) : ofDigits 10 (natText 10 n) = n := by
  rw [natText, ofDigits_map_digitChar fun _ mem => lt_of_mem_digits mem, ofDigitList_digits]

/-- The digits of a positive number do not begin with zero. -/
theorem exists_digits_eq_cons {n : Nat} (positive : 0 < n) :
    ∃ d rest, digits 10 n = d :: rest ∧ d ≠ 0 ∧ d < 10 := by
  have nonempty : Nat.digits 10 n ≠ [] := Nat.digits_ne_nil_iff_ne_zero.mpr positive.ne'
  rcases List.eq_nil_or_concat (Nat.digits 10 n) with none | ⟨lower, d, split⟩
  · exact absurd none nonempty
  · have leading : d ≠ 0 := by
      have := Nat.getLast_digit_ne_zero 10 positive.ne'
      simpa [split] using this
    have small : d < 10 := Nat.digits_lt_base (m := n) (by norm_num) (by rw [split]; simp)
    exact ⟨d, lower.reverse, by rw [digits_eq (by norm_num) positive, split]; simp, leading, small⟩

theorem digits_ne_nil (n : Nat) : digits 10 n ≠ [] := by
  rcases Nat.eq_zero_or_pos n with rfl | positive
  · rw [digits_zero]
    exact List.cons_ne_nil 0 []
  · rcases exists_digits_eq_cons positive with ⟨d, rest, split, -⟩
    rw [split]
    exact List.cons_ne_nil d rest

/-- The count of digits of a number tells its size. -/
theorem length_digits_bounds {n : Nat} (positive : 0 < n) :
    10 ^ ((digits 10 n).length - 1) ≤ n ∧ n < 10 ^ (digits 10 n).length := by
  rw [digits_eq (by norm_num) positive, List.length_reverse]
  have high := Nat.lt_base_pow_length_digits (b := 10) (m := n) (by norm_num)
  have low := Nat.base_pow_length_digits_le 10 n (by norm_num) positive.ne'
  refine ⟨?_, high⟩
  generalize (Nat.digits 10 n).length = length at low high ⊢
  cases length with
  | zero => omega
  | succ length =>
      rw [Nat.pow_succ, Nat.mul_comm] at low
      exact Nat.le_of_mul_le_mul_left low (by norm_num)

end Stencil.Number
