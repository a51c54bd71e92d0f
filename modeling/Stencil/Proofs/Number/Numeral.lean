import Stencil.Proofs.Number.Digits
import Stencil.Proofs.Number.Literal

/-!
# Numerals

The numeral of a natural number is its text without needless zeros.  Any other text of digits is a
numeral behind zeros, and a position may be written with a plus sign and zeros in front.
-/

namespace Stencil.Number

open Text

variable {s : List Char} {key : String} {m n : Nat}

/-! ## Digits of a number -/

/-- Digits that do not begin with zero are those of their number. -/
theorem digits_ofDigitList {digits : List Nat} (small : ∀ d ∈ digits, d < 10)
    (leading : ∃ first rest, digits = first :: rest ∧ first ≠ 0) :
    Number.digits 10 (ofDigitList digits) = digits := by
  rcases leading with ⟨first, rest, rfl, notZero⟩
  have positive : 0 < ofDigitList (first :: rest) := by
    rw [ofDigitList_cons]
    exact Nat.add_pos_left (Nat.mul_pos (Nat.pos_of_ne_zero notZero) (Nat.pow_pos (by decide))) _
  rw [digits_eq (by decide) positive, ofDigitList, Nat.digits_ofDigits 10 (by decide),
    List.reverse_reverse]
  · exact fun d mem => small d (List.mem_reverse.mp mem)
  · simpa using notZero

theorem digitChar_toNat_sub {c : Char} (digit : isDigit c = true) :
    digitChar (c.toNat - 48) = c := by
  simp only [isDigit, Bool.and_eq_true, decide_eq_true_eq] at digit
  rw [← Char.toNat_inj, toNat_digitChar (by omega)]
  omega

/-- Characters that are digits are those of a list of digits. -/
theorem exists_map_digitChar (all : AllDigits s) :
    ∃ digits : List Nat, (∀ d ∈ digits, d < 10) ∧ s = digits.map digitChar := by
  refine ⟨s.map fun c => c.toNat - 48, ?_, ?_⟩
  · intro d mem
    rcases List.mem_map.mp mem with ⟨c, cMem, rfl⟩
    have digit := all c cMem
    simp only [isDigit, Bool.and_eq_true, decide_eq_true_eq] at digit
    omega
  · rw [List.map_map]
    exact ((List.map_congr_left fun c mem => digitChar_toNat_sub (all c mem)).trans
      (List.map_id s)).symm

/-- Digits that do not begin with zero are the text of their number. -/
theorem natText_ofDigits (all : AllDigits s)
    (leading : ∃ first rest, s = first :: rest ∧ first ≠ '0') : natText 10 (ofDigits 10 s) = s := by
  rcases exists_map_digitChar all with ⟨digits, small, rfl⟩
  rw [ofDigits_map_digitChar small, natText, digits_ofDigitList small]
  rcases leading with ⟨first, rest, split, notZero⟩
  rcases List.map_eq_cons_iff.mp split with ⟨d, others, rfl, rfl, -⟩
  refine ⟨d, others, rfl, ?_⟩
  rintro rfl
  exact notZero rfl

theorem natText_zero : natText 10 0 = ['0'] := by
  rw [natText, digits_zero]
  rfl

theorem natText_ne_nil (n : Nat) : natText 10 n ≠ [] := by
  simpa [natText] using digits_ne_nil n

/-- The text of a number other than zero does not begin with zero. -/
theorem natText_cases (n : Nat) :
    n = 0 ∧ natText 10 n = ['0'] ∨ ∃ first rest, natText 10 n = first :: rest ∧ first ≠ '0' := by
  rcases Nat.eq_zero_or_pos n with rfl | positive
  · exact .inl ⟨rfl, natText_zero⟩
  · rcases exists_digits_eq_cons positive with ⟨d, rest, split, notZero, small⟩
    refine .inr ⟨digitChar d, rest.map digitChar, by rw [natText, split, List.map_cons], ?_⟩
    intro zero
    exact notZero
      ((digitChar_inj small (by decide)).mp (zero.trans (by decide : '0' = digitChar 0)))

/-! ## Numerals behind zeros -/

theorem ofDigits_replicate_zero_append (zeros : Nat) (s : List Char) :
    ofDigits 10 (List.replicate zeros '0' ++ s) = ofDigits 10 s := by
  induction zeros with
  | zero => rfl
  | succ zeros ih => exact ih

/-- Every text of digits is a numeral behind zeros. -/
theorem exists_zeros (nonempty : s ≠ []) (all : AllDigits s) :
    ∃ zeros, s = List.replicate zeros '0' ++ natText 10 (ofDigits 10 s) := by
  induction s with
  | nil => exact absurd rfl nonempty
  | cons c rest ih =>
      by_cases zero : c = '0'
      · subst zero
        cases rest with
        | nil => exact ⟨0, natText_zero.symm⟩
        | cons d more =>
            rcases ih (List.cons_ne_nil d more) fun c mem => all c (List.mem_cons_of_mem _ mem) with
              ⟨zeros, split⟩
            refine ⟨zeros + 1, ?_⟩
            rw [List.replicate_succ, List.cons_append]
            exact congrArg (List.cons '0') split
      · exact ⟨0, (natText_ofDigits all ⟨c, rest, rfl, zero⟩).symm⟩

theorem allDigits_zeros_append (zeros n : Nat) :
    AllDigits (List.replicate zeros '0' ++ natText 10 n) := by
  intro c mem
  rcases List.mem_append.mp mem with mem | mem
  · rw [List.eq_of_mem_replicate mem]
    rfl
  · exact all_isDigit_natText n c mem

/-! ## Numerals of a width -/

theorem allDigits_padded (width n : Nat) : AllDigits (padded width n) :=
  allDigits_zeros_append _ n

theorem ofDigits_padded (width n : Nat) : ofDigits 10 (padded width n) = n :=
  (ofDigits_replicate_zero_append _ _).trans (ofDigits_natText n)

/-- A number that fits is written with exactly the width asked for. -/
theorem length_padded {width : Nat} (wide : 0 < width) (fits : n < 10 ^ width) :
    (padded width n).length = width := by
  have short : (natText 10 n).length ≤ width := by
    rcases Nat.eq_zero_or_pos n with rfl | positive
    · rw [natText_zero]
      exact wide
    · rcases length_digits_bounds positive with ⟨low, -⟩
      have fewer := (Nat.pow_lt_pow_iff_right (by decide)).mp (low.trans_lt fits)
      rw [natText, List.length_map]
      omega
  rw [padded, List.length_append, List.length_replicate]
  exact Nat.sub_add_cancel short

/-- Digits are the numeral of their number in their own width. -/
theorem padded_ofDigits (nonempty : s ≠ []) (all : AllDigits s) :
    padded s.length (ofDigits 10 s) = s := by
  rcases exists_zeros nonempty all with ⟨zeros, split⟩
  have length := congrArg List.length split
  rw [List.length_append, List.length_replicate] at length
  rw [padded, length, Nat.add_sub_cancel]
  exact split.symm

/-! ## Positions -/

/-- The text of a natural number. -/
def numeral (n : Nat) : String :=
  String.ofList (natText 10 n)

@[simp]
theorem toList_numeral (n : Nat) : (numeral n).toList = natText 10 n :=
  String.toList_ofList

/-- The numeral of a number with a plus sign or zeros in front that it does not need. -/
def IsPadded (key : String) (n : Nat) : Prop :=
  ∃ sign ∈ [[], ['+']], ∃ zeros, ¬ (sign = [] ∧ zeros = 0) ∧
    key.toList = sign ++ (List.replicate zeros '0' ++ natText 10 n)

/-- No numeral is padded. -/
theorem not_isPadded_numeral (m n : Nat) : ¬ IsPadded (numeral m) n := by
  rintro ⟨sign, isSign, zeros, padded, split⟩
  rw [toList_numeral] at split
  simp only [List.mem_cons, List.not_mem_nil, or_false] at isSign
  rcases isSign with rfl | rfl
  · rcases Nat.exists_eq_succ_of_ne_zero fun none => padded ⟨rfl, none⟩ with ⟨zeros, rfl⟩
    rw [List.nil_append, List.replicate_succ, List.cons_append] at split
    rcases natText_cases m with ⟨-, zero⟩ | ⟨first, rest, leading, notZero⟩
    · rw [zero] at split
      have none := (List.cons.inj split).2
      exact natText_ne_nil n (List.append_eq_nil_iff.mp none.symm).2
    · rw [leading] at split
      exact notZero (List.cons.inj split).1
  · have digit := all_isDigit_natText m '+' (by simp [split])
    cases digit

theorem zeros_append_ne_nil (zeros n : Nat) : List.replicate zeros '0' ++ natText 10 n ≠ [] :=
  fun none => natText_ne_nil n (List.append_eq_nil_iff.mp none).2

/-- A numeral is read as a position, with a plus sign and zeros in front or without. -/
theorem readPosition?_of_toList_eq {sign : List Char} (isSign : sign ∈ [[], ['+']]) {zeros : Nat}
    (split : key.toList = sign ++ (List.replicate zeros '0' ++ natText 10 n)) :
    readPosition? key = some n := by
  have all := allDigits_zeros_append zeros n
  have value : ofDigits 10 (List.replicate zeros '0' ++ natText 10 n) = n := by
    rw [ofDigits_replicate_zero_append, ofDigits_natText]
  have nonempty := zeros_append_ne_nil zeros n
  generalize List.replicate zeros '0' ++ natText 10 n = digits at *
  have isRead : ¬ (digits.isEmpty || !digits.all isDigit) = true := by
    simpa [nonempty] using all
  simp only [List.mem_cons, List.not_mem_nil, or_false] at isSign
  unfold readPosition?
  rcases isSign with rfl | rfl
  · rw [List.nil_append] at split
    rw [split]
    split
    · rename_i rest
      cases all '+' List.mem_cons_self
    · simp only [if_neg isRead, value]
  · rw [split, List.singleton_append]
    simp only [if_neg isRead, value]

/-- A key is read as a position if it is a numeral, padded or not. -/
theorem readPosition?_eq_some_iff :
    readPosition? key = some n ↔ key = numeral n ∨ IsPadded key n := by
  constructor
  · intro read
    have digits_cases {digits : List Char}
        (taken : (if (digits.isEmpty || !digits.all isDigit) = true then none
          else some (ofDigits 10 digits)) = some n) :
        ∃ zeros, digits = List.replicate zeros '0' ++ natText 10 n := by
      split at taken
      · cases taken
      · rename_i isRead
        cases taken
        simp only [Bool.or_eq_true, List.isEmpty_iff, Bool.not_eq_true', not_or,
          Bool.not_eq_false, List.all_eq_true] at isRead
        exact exists_zeros isRead.1 isRead.2
    unfold readPosition? at read
    dsimp only at read
    split at read
    · rename_i rest split
      rcases digits_cases read with ⟨zeros, rfl⟩
      exact .inr ⟨['+'], by simp, zeros, by simp, split⟩
    · rcases digits_cases read with ⟨zeros, split⟩
      cases zeros with
      | zero => exact .inl (String.toList_inj.mp (split.trans (toList_numeral n).symm))
      | succ zeros => exact .inr ⟨[], by simp, zeros + 1, by simp, split⟩
  · rintro (rfl | ⟨sign, isSign, zeros, -, split⟩)
    · have plain : (numeral n).toList = [] ++ (List.replicate 0 '0' ++ natText 10 n) :=
        toList_numeral n
      exact readPosition?_of_toList_eq List.mem_cons_self plain
    · exact readPosition?_of_toList_eq isSign split

end Stencil.Number
