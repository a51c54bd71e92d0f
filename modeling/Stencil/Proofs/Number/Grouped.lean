import Mathlib.Data.List.DropRight
import Stencil.Proofs.Number.Fixed
import Stencil.Proofs.Number.Numeral

/-!
# Grouped numbers

The digits of a grouped number in front of the point stand in groups of three.  Without the commas,
and with zeros up to the third digit behind the point, a grouped number is a count of thousandths,
and so is a number with three fraction digits.  Both counts are the nearest one.  Only halfway
between two thousandths they may differ, since one of them goes to the even count and the other one
up, and a number of the format stands there only if it is an odd multiple of a sixteenth.
-/

namespace Stencil

open Text (isDigit ofDigits)

namespace Number

variable {s sign fraction : List Char} {m n : ℕ}

/-! ## Groups of three -/

/-- Digits in groups of three, the first of which may be shorter. -/
structure Groups where
  first : List Char
  others : List (List Char)
  nonempty : first ≠ []
  short : first.length ≤ 3
  three : ∀ group ∈ others, group.length = 3

namespace Groups

/-- The digits without the groups. -/
def digits (g : Groups) : List Char :=
  g.first ++ g.others.flatten

/-- The written form, with a comma in front of every group but the first. -/
def text (g : Groups) : List Char :=
  g.first ++ g.others.flatMap (List.cons ',')

theorem length_digits (g : Groups) : g.digits.length = g.first.length + 3 * g.others.length := by
  rw [digits, List.length_append, List.length_flatten, List.map_congr_left g.three,
    List.map_const', List.sum_replicate_nat, Nat.mul_comm]

end Groups

/-- A comma in front of every digit whose distance from the end is a multiple of three splits the
digits into groups of three. -/
theorem exists_groups {digits : List Char} (nonempty : digits ≠ []) :
    ∃ g : Groups, g.digits = digits ∧ g.text = grouped digits := by
  induction digits with
  | nil => exact absurd rfl nonempty
  | cons d rest ih =>
      cases rest with
      | nil => exact ⟨⟨[d], [], by simp, by simp, by simp⟩, rfl, rfl⟩
      | cons e more =>
          rcases ih (List.cons_ne_nil e more) with ⟨g, digits, text⟩
          have length := g.length_digits
          have positive := List.length_pos_of_ne_nil g.nonempty
          have short := g.short
          rw [digits] at length
          rw [grouped]
          · split_ifs with full
            -- The first group is full, so the digit begins a group in front of it.
            · have three : ∀ group ∈ g.first :: g.others, group.length = 3 :=
                List.forall_mem_cons.mpr ⟨by omega, g.three⟩
              refine ⟨⟨[d], g.first :: g.others, by simp, by simp, three⟩, ?_, ?_⟩
              · exact congrArg (List.cons d) digits
              · exact congrArg (fun s => d :: ',' :: s) text
            · have short : (d :: g.first).length ≤ 3 := by
                rw [List.length_cons]
                omega
              refine ⟨⟨d :: g.first, g.others, by simp, short, g.three⟩, ?_, ?_⟩
              · exact congrArg (List.cons d) digits
              · exact congrArg (List.cons d) text
          · simp

/-- Digits behind a point.  Without digits there is no point. -/
def pointed (fraction : List Char) : List Char :=
  if fraction.isEmpty then [] else '.' :: fraction

/-- The written forms of a grouped number: a minus sign that may be missing, groups of digits, and
at most three digits behind a point, the last of which is no zero. -/
inductive WritesGrouped : List Char → Prop where
  | parts {sign fraction : List Char} {g : Groups} :
      sign ∈ [[], ['-']] →
      AllDigits (g.digits ++ fraction) →
      fraction.length ≤ 3 →
      fraction.getLast? ≠ some '0' →
      WritesGrouped (sign ++ (g.text ++ pointed fraction))

/-! ## Thousandths -/

/-- The text of a number without commas and with three digits behind the point at least. -/
def inThousandths (s : List Char) : List Char :=
  let plain := s.filter (· != ',')
  let fraction := (plain.dropWhile (· != '.')).tail
  plain.takeWhile (· != '.') ++ '.' :: (fraction ++ List.replicate (3 - fraction.length) '0')

/-- The text of a number without a minus sign if all its digits are zeros. -/
def unsignedZero (s : List Char) : List Char :=
  if s.all fun c => !isDigit c || c == '0' then s.filter (· != '-') else s

/-- The text of a count of thousandths, with three digits behind the point. -/
def thousandthsText (n : ℕ) : List Char :=
  natText 10 (n / 1000) ++ '.' :: padded 3 (n % 1000)

/-- The text of a count of thousandths with its sign.  Zero has none. -/
def signedThousandths (negative : Bool) (n : ℕ) : List Char :=
  (if negative && n != 0 then ['-'] else []) ++ thousandthsText n

theorem length_padded_thousandths (n : ℕ) : (padded 3 (n % 1000)).length = 3 :=
  length_padded (by decide) (Nat.mod_lt n (by decide))

theorem thousandthsText_injective (same : thousandthsText m = thousandthsText n) : m = n := by
  have length : ('.' :: padded 3 (m % 1000)).length = ('.' :: padded 3 (n % 1000)).length := by
    rw [List.length_cons, List.length_cons, length_padded_thousandths, length_padded_thousandths]
  rcases List.append_inj' same length with ⟨whole, fraction⟩
  have quotient := congrArg (ofDigits 10) whole
  have remainder := congrArg (ofDigits 10) (List.cons.inj fraction).2
  rw [ofDigits_natText, ofDigits_natText] at quotient
  rw [ofDigits_padded, ofDigits_padded] at remainder
  omega

theorem ne_of_allDigits {c : Char} (all : AllDigits s) (notDigit : isDigit c = false) :
    ∀ d ∈ s, (d != c) = true := by
  intro d mem
  rw [bne_iff_ne]
  rintro rfl
  exact Bool.false_ne_true (notDigit.symm.trans (all d mem))

theorem filter_thousandthsText (n : ℕ) :
    (thousandthsText n).filter (· != '-') = thousandthsText n := by
  refine List.filter_eq_self.mpr fun c mem => ?_
  rcases List.mem_append.mp mem with whole | behind
  · exact ne_of_allDigits (all_isDigit_natText _) rfl c whole
  · rcases List.mem_cons.mp behind with rfl | behind
    · rfl
    · exact ne_of_allDigits (allDigits_padded 3 _) rfl c behind

theorem signedThousandths_injective {negative : Bool}
    (same : signedThousandths negative m = signedThousandths negative n) : m = n := by
  have unsigned (k : ℕ) :
      (signedThousandths negative k).filter (· != '-') = thousandthsText k := by
    rw [signedThousandths, List.filter_append, filter_thousandthsText]
    split_ifs <;> rfl
  refine thousandthsText_injective ?_
  rw [← unsigned m, ← unsigned n, same]

theorem ofDigits_eq_zero (zeros : ∀ c ∈ s, c = '0') : ofDigits 10 s = 0 := by
  rw [List.eq_replicate_of_mem zeros, ← List.append_nil (List.replicate _ _),
    ofDigits_replicate_zero_append]
  rfl

/-- Only zero has no digit but zeros. -/
theorem eq_zero_of_thousandthsText
    (zeros : ∀ c ∈ thousandthsText n, isDigit c = true → c = '0') : n = 0 := by
  have whole : ofDigits 10 (natText 10 (n / 1000)) = 0 :=
    ofDigits_eq_zero fun c mem =>
      zeros c (List.mem_append_left _ mem) (all_isDigit_natText _ c mem)
  have fraction : ofDigits 10 (padded 3 (n % 1000)) = 0 :=
    ofDigits_eq_zero fun c mem =>
      zeros c (List.mem_append_right _ (List.mem_cons_of_mem _ mem)) (allDigits_padded 3 _ c mem)
  rw [ofDigits_natText] at whole
  rw [ofDigits_padded] at fraction
  omega

theorem unsignedZero_thousandthsText (negative : Bool) (n : ℕ) :
    unsignedZero ((if negative then ['-'] else []) ++ thousandthsText n) =
      signedThousandths negative n := by
  rw [unsignedZero, signedThousandths]
  by_cases zero : n = 0
  · subst zero
    have text : thousandthsText 0 = ['0', '.', '0', '0', '0'] := by
      rw [thousandthsText, padded, natText_zero]
      rfl
    rw [text]
    cases negative <;> rfl
  · rw [if_neg]
    · simp [zero]
    · intro all
      refine zero (eq_zero_of_thousandthsText fun c mem digit => ?_)
      have read := List.all_eq_true.mp all c (List.mem_append_right _ mem)
      simpa [digit] using read

/-! ## Zeros behind the last digit -/

/-- Zeros restore digits without the zeros at their end. -/
theorem rdropWhile_append_zeros (s : List Char) :
    s.rdropWhile (· == '0') ++
      List.replicate (s.length - (s.rdropWhile (· == '0')).length) '0' = s := by
  induction s using List.reverseRecOn with
  | nil => rfl
  | append_singleton s c ih =>
      have short := (List.rdropWhile_prefix (· == '0') s).length_le
      rw [List.rdropWhile_concat]
      split_ifs with zero
      · rw [beq_iff_eq] at zero
        rw [List.length_append, List.length_singleton, Nat.sub_add_comm short,
          List.replicate_succ', ← List.append_assoc, ih, zero]
      · rw [Nat.sub_self, List.replicate_zero, List.append_nil]

theorem getLast?_rdropWhile_ne (s : List Char) :
    (s.rdropWhile (· == '0')).getLast? ≠ some '0' := by
  intro last
  rcases List.getLast?_eq_some_iff.mp last with ⟨front, split⟩
  have nonempty : s.rdropWhile (· == '0') ≠ [] := by simp [split]
  refine List.rdropWhile_last_not (· == '0') s nonempty ?_
  simp [split]

/-! ## The thousandths of a grouped text -/

theorem filter_text {g : Groups} (all : AllDigits g.digits) :
    g.text.filter (· != ',') = g.digits := by
  have keeps {group : List Char} (sub : ∀ c ∈ group, c ∈ g.digits) :
      group.filter (· != ',') = group :=
    List.filter_eq_self.mpr fun c mem => ne_of_allDigits all rfl c (sub c mem)
  have others : (g.others.flatMap (List.cons ',')).filter (· != ',') = g.others.flatten := by
    rw [List.filter_flatMap, ← List.flatMap_id]
    refine List.flatMap_congr fun group mem => ?_
    exact keeps fun c cMem => List.mem_append_right _ (List.mem_flatten.mpr ⟨group, mem, cMem⟩)
  rw [Groups.text, List.filter_append, others, keeps fun c mem => List.mem_append_left _ mem]
  rfl

theorem filter_pointed (all : AllDigits fraction) :
    (pointed fraction).filter (· != ',') = pointed fraction := by
  refine List.filter_eq_self.mpr fun c mem => ?_
  rw [pointed] at mem
  split_ifs at mem
  · cases mem
  · rcases List.mem_cons.mp mem with rfl | mem
    · rfl
    · exact ne_of_allDigits all rfl c mem

/-- The point is the first one of a text whose front has none. -/
theorem splitAt_pointed {front : List Char} (noPoint : ∀ c ∈ front, (c != '.') = true)
    (fraction : List Char) :
    (front ++ pointed fraction).takeWhile (· != '.') = front ∧
      ((front ++ pointed fraction).dropWhile (· != '.')).tail = fraction := by
  rw [List.takeWhile_append_of_pos noPoint, List.dropWhile_append_of_pos noPoint, pointed]
  split_ifs with none
  · exact ⟨List.append_nil front, (List.isEmpty_iff.mp none).symm⟩
  · exact ⟨List.append_nil front, rfl⟩

/-- Without the commas and with zeros behind the last digit, a grouped text has all of its digits
and its sign. -/
theorem inThousandths_text {g : Groups} (isSign : sign ∈ [[], ['-']])
    (all : AllDigits (g.digits ++ fraction)) :
    inThousandths (sign ++ (g.text ++ pointed fraction)) =
      sign ++ (g.digits ++ '.' :: (fraction ++ List.replicate (3 - fraction.length) '0')) := by
  have allWhole : AllDigits g.digits := fun c mem => all c (List.mem_append_left _ mem)
  have allFraction : AllDigits fraction := fun c mem => all c (List.mem_append_right _ mem)
  have signs : ∀ c ∈ sign, c = '-' := by
    simp only [List.mem_cons, List.not_mem_nil, or_false] at isSign
    rcases isSign with rfl | rfl <;> simp
  have noComma : sign.filter (· != ',') = sign :=
    List.filter_eq_self.mpr fun c mem => signs c mem ▸ rfl
  have noPoint : ∀ c ∈ sign ++ g.digits, (c != '.') = true := by
    intro c mem
    rcases List.mem_append.mp mem with mem | mem
    · exact signs c mem ▸ rfl
    · exact ne_of_allDigits allWhole rfl c mem
  have plain : (sign ++ (g.text ++ pointed fraction)).filter (· != ',') =
      (sign ++ g.digits) ++ pointed fraction := by
    rw [List.filter_append, List.filter_append, filter_text allWhole, noComma,
      filter_pointed allFraction, List.append_assoc]
  have split := splitAt_pointed noPoint fraction
  rw [inThousandths]
  simp only [plain, split]
  rw [List.append_assoc]

/-! ## The thousandths of a spelling -/

/-- A spelling with three digits behind the point is written in thousandths. -/
theorem text_eq_thousandthsText {s : Spelling} (proper : s.IsProper) (plain : s.exponent = none)
    (length : s.fraction.length = 3) :
    s.text = thousandthsText (ofDigitList (s.whole ++ s.fraction)) := by
  have smallWhole : ∀ d ∈ s.whole, d < 10 := fun d mem =>
    proper.small d (List.mem_append_left _ mem)
  have smallFraction : ∀ d ∈ s.fraction, d < 10 := fun d mem =>
    proper.small d (List.mem_append_right _ mem)
  have bound : ofDigitList s.fraction < 10 ^ 3 := by
    have less := Nat.ofDigits_lt_base_pow_length (b := 10) (by decide)
      fun d mem => smallFraction d (List.mem_reverse.mp mem)
    rwa [List.length_reverse, length] at less
  have quotient : ofDigitList (s.whole ++ s.fraction) / 1000 = ofDigitList s.whole := by
    rw [ofDigitList_append, length]
    omega
  have remainder : ofDigitList (s.whole ++ s.fraction) % 1000 = ofDigitList s.fraction := by
    rw [ofDigitList_append, length]
    omega
  have whole : natText 10 (ofDigitList s.whole) = Decimal.text s.whole := by
    rcases proper.leading with zero | leading
    · rw [zero]
      exact natText_zero
    · rw [natText, digits_ofDigitList smallWhole leading]
      rfl
  have fraction : padded 3 (ofDigitList s.fraction) = Decimal.text s.fraction := by
    have nonempty : Decimal.text s.fraction ≠ [] := by
      rw [← List.length_pos_iff, Decimal.text, List.length_map, length]
      decide
    have padded := padded_ofDigits nonempty (all_isDigit_map_digitChar smallFraction)
    rwa [Decimal.text, ofDigits_map_digitChar smallFraction, List.length_map, length] at padded
  have notEmpty : s.fraction.isEmpty = false := by
    rw [List.isEmpty_eq_false_iff, ← List.length_pos_iff, length]
    decide
  rw [thousandthsText, quotient, remainder, whole, fraction, Spelling.text, plain,
    Spelling.fractionText, notEmpty, Spelling.exponentText, List.append_nil]
  rfl

end Number

namespace Binary64

open Number

variable {num den : ℕ}

/-! ## Nearest thousandths -/

/-- The count of thousandths nearest to a number, a tie going to the even count. -/
def thousandths (x : Binary64) : ℕ :=
  divideToEven (x.ratio.1 * 1000) x.ratio.2

/-- Rounding to even differs from rounding half up only by going down from halfway to an even
quotient. -/
theorem half_up_div_eq (positive : 0 < den) :
    (2 * num + den) / (2 * den) =
      divideToEven num den + if 2 * (num % den) = den ∧ num / den % 2 = 0 then 1 else 0 := by
  rw [half_up_div positive, divideToEven]
  simp only [Bool.or_eq_true, Bool.and_eq_true, decide_eq_true_eq, beq_iff_eq]
  split_ifs <;> omega

/-- A sixteenth behind a multiple of a quarter is halfway between an even count of thousandths and
the next one. -/
theorem halfway_of_sixteenths (positive : 0 < den) {k : ℕ}
    (sixteenths : num * 16 = (4 * k + 1) * den) :
    2 * (num * 1000 % den) = den ∧ num * 1000 / den = 250 * k + 62 := by
  have expand : (4 * k + 1) * den = 4 * (k * den) + den := by ring
  have halves : num * 1000 = den / 2 + den * (250 * k + 62) := by
    have expand : den * (250 * k + 62) = 250 * (k * den) + 62 * den := by ring
    omega
  have small : den / 2 < den := Nat.div_lt_self positive (by decide)
  rw [halves, Nat.add_mul_mod_self_left, Nat.add_mul_div_left _ _ positive,
    Nat.mod_eq_of_lt small, Nat.div_eq_of_lt small, Nat.zero_add]
  exact ⟨by omega, rfl⟩

/-- With no factor five in the denominator, nothing else is halfway between an even count of
thousandths and the next one. -/
theorem exists_sixteenths_of_halfway (coprime : Nat.Coprime 125 den)
    (half : 2 * (num * 1000 % den) = den) (even : num * 1000 / den % 2 = 0) :
    ∃ k, num * 16 = (4 * k + 1) * den := by
  have division := Nat.div_add_mod (num * 1000) den
  generalize num * 1000 / den = quotient at *
  have doubled : 125 * (num * 16) = den * (2 * quotient + 1) := by
    have expand : den * (2 * quotient + 1) = 2 * (den * quotient) + den := by ring
    omega
  rcases coprime.dvd_of_dvd_mul_left ⟨num * 16, doubled.symm⟩ with ⟨odd, split⟩
  have sixteenths : num * 16 = odd * den := by
    rw [split, show den * (125 * odd) = 125 * (odd * den) by ring] at doubled
    exact Nat.eq_of_mul_eq_mul_left (by decide) doubled
  refine ⟨odd / 4, ?_⟩
  rw [sixteenths, show 4 * (odd / 4) + 1 = odd by omega]

theorem coprime_ratio_den (x : Binary64) : Nat.Coprime 125 x.ratio.2 := by
  rw [ratio]
  split_ifs
  · exact Nat.coprime_one_right 125
  · exact Nat.Coprime.pow_right _ (by decide)

/-- The numbers a sixteenth behind a multiple of a quarter. -/
theorem magnitude_eq_sixteenths_iff (x : Binary64) (k : ℕ) :
    x.magnitude = k / 4 + 1 / 16 ↔ x.ratio.1 * 16 = (4 * k + 1) * x.ratio.2 := by
  have denPos : (x.ratio.2 : ℚ) ≠ 0 := by exact_mod_cast x.ratio_den_pos.ne'
  rw [← ratio_eq_magnitude, show (k : ℚ) / 4 + 1 / 16 = (4 * k + 1) / 16 by ring,
    div_eq_div_iff denPos (by norm_num)]
  exact_mod_cast Iff.rfl

theorem floor_thousandths (x : Binary64) : ⌊x.magnitude * 10 ^ 3 + 1 / 2⌋₊ =
    (2 * (x.ratio.1 * 1000) + x.ratio.2) / (2 * x.ratio.2) :=
  x.floor_magnitude 3

/-- A sixteenth behind a multiple of a quarter, the nearest count of thousandths is one less than
the one to which ties go up. -/
theorem thousandths_of_sixteenths {x : Binary64} {k : ℕ} (tie : x.magnitude = k / 4 + 1 / 16) :
    x.thousandths = 250 * k + 62 ∧ ⌊x.magnitude * 10 ^ 3 + 1 / 2⌋₊ = 250 * k + 63 := by
  have positive := x.ratio_den_pos
  rcases halfway_of_sixteenths positive ((x.magnitude_eq_sixteenths_iff k).mp tie) with
    ⟨half, quotient⟩
  have up : ⌊x.magnitude * 10 ^ 3 + 1 / 2⌋₊ = 250 * k + 63 := by
    rw [floor_thousandths, half_up_div positive, quotient, if_pos (Nat.le_of_eq half.symm)]
  have one_more : ⌊x.magnitude * 10 ^ 3 + 1 / 2⌋₊ = x.thousandths + 1 := by
    rw [floor_thousandths, half_up_div_eq positive, quotient, if_pos ⟨half, by omega⟩]
    rfl
  exact ⟨by omega, up⟩

/-- At all other numbers both counts are the same. -/
theorem thousandths_eq_iff (x : Binary64) :
    x.thousandths = ⌊x.magnitude * 10 ^ 3 + 1 / 2⌋₊ ↔ ∀ k : ℕ, x.magnitude ≠ k / 4 + 1 / 16 := by
  constructor
  · intro same k tie
    have counts := thousandths_of_sixteenths tie
    omega
  · intro noTie
    rw [floor_thousandths, half_up_div_eq x.ratio_den_pos, if_neg]
    · rfl
    · rintro ⟨half, even⟩
      rcases exists_sixteenths_of_halfway x.coprime_ratio_den half even with
        ⟨k, tie⟩
      exact noTie k ((x.magnitude_eq_sixteenths_iff k).mpr tie)

/-! ## The two texts -/

/-- The fraction digits of a grouped number. -/
def groupedFraction (x : Binary64) : List Char :=
  (padded 3 (x.thousandths % 1000)).rdropWhile (· == '0')

theorem toGrouped_eq {x : Binary64} (finite : x.isFinite) :
    x.toGrouped = String.ofList ((if x.lt zero && x.thousandths != 0 then ['-'] else []) ++
      (grouped (natText 10 (x.thousandths / 1000)) ++ pointed x.groupedFraction)) := by
  generalize body_eq : grouped (natText 10 (x.thousandths / 1000)) ++ pointed x.groupedFraction =
    body
  have text : x.toGrouped = if !x.isFinite then x.toText else
      String.ofList (if x.lt zero && x.thousandths != 0 then '-' :: body else body) := by
    rw [← body_eq]
    rfl
  rw [text, finite, if_neg (by decide)]
  split_ifs <;> rfl

/-- A finite number is written in groups, and these are its nearest thousandths. -/
theorem toGrouped_spec {x : Binary64} (finite : x.isFinite) :
    WritesGrouped x.toGrouped.toList ∧
      inThousandths x.toGrouped.toList = signedThousandths (x.lt zero) x.thousandths := by
  rw [toGrouped_eq finite, String.toList_ofList]
  rcases exists_groups (natText_ne_nil (x.thousandths / 1000)) with ⟨g, digits, text⟩
  have isSign : (if x.lt zero && x.thousandths != 0 then ['-'] else []) ∈ [[], ['-']] := by
    split_ifs <;> simp
  have isPrefix : x.groupedFraction <+: padded 3 (x.thousandths % 1000) :=
    List.rdropWhile_prefix (· == '0') _
  have length := length_padded_thousandths x.thousandths
  have restored := rdropWhile_append_zeros (padded 3 (x.thousandths % 1000))
  have all : AllDigits (g.digits ++ x.groupedFraction) := by
    intro c mem
    rcases List.mem_append.mp mem with mem | mem
    · exact all_isDigit_natText _ c (digits ▸ mem)
    · exact allDigits_padded 3 _ c (isPrefix.subset mem)
  rw [← text]
  refine ⟨.parts isSign all (length ▸ isPrefix.length_le) (getLast?_rdropWhile_ne _), ?_⟩
  rw [length] at restored
  rw [inThousandths_text isSign all, digits, groupedFraction, restored]
  rfl

/-- With three fraction digits, a number is written in its nearest thousandths, a tie going up. -/
theorem toFixed_three (x : Binary64) :
    x.toFixed 3 = String.ofList ((if x.lt zero then ['-'] else []) ++
      thousandthsText ⌊x.magnitude * 10 ^ 3 + 1 / 2⌋₊) := by
  rcases x.exists_toFixed_eq (show 3 < 1074 by decide) with
    ⟨s, proper, plain, length, value, written⟩
  have count : ofDigitList (s.whole ++ s.fraction) = ⌊x.magnitude * 10 ^ 3 + 1 / 2⌋₊ := by
    rw [Spelling.value, plain, Option.getD_none, length, zero_sub, zpow_neg, ← div_eq_mul_inv,
      zpow_natCast, div_left_inj' (by norm_num)] at value
    exact_mod_cast value
  rw [written, text_eq_thousandthsText proper plain length, count]

end Binary64

end Stencil
