import Stencil.Json.Reading
import Stencil.Json.Text
import Stencil.Proofs.Number.Decimal
import Stencil.Proofs.Number.Integer
import Stencil.Proofs.Number.Layout
import Stencil.Proofs.Text.Run

/-!
# Reading written numbers

The text of a number spells it, and a reader takes the parts of the spelling, which it converts.
The conversion rounds twice.  For short spellings, with a significand below `2 ^ 53` and a power of
ten of no more than fifteen, the first rounding is exact, and the number nearest to the text comes
out.
-/

namespace Stencil

open Text (isDigit ofDigits)

/-! ## Runs of digits -/

/-- A text that does not begin with a digit. -/
def Text.NoDigit (rest : List Char) : Prop :=
  ∀ c ∈ rest.head?, isDigit c = false

theorem Text.takeWhile_isDigit_append {digits rest : List Char}
    (all : ∀ c ∈ digits, isDigit c = true) (stops : NoDigit rest) :
    (digits ++ rest).takeWhile isDigit = digits :=
  takeWhile_append_of_stops all stops

theorem Text.ofDigits_le_append (base : ℕ) (digits more : List Char) (positive : 0 < base) :
    ofDigits base digits ≤ ofDigits base (digits ++ more) := by
  induction more using List.reverseRecOn with
  | nil => rw [List.append_nil]
  | append_singleton more c ih =>
      rw [← List.append_assoc, ofDigits, ofDigits, List.foldl_append, ← ofDigits, ← ofDigits]
      exact ih.trans ((Nat.le_mul_of_pos_right _ positive).trans (Nat.le_add_right _ _))

/-! ## Spelled numbers -/

/-- The written form with a sign. -/
def Spelling.signedText (s : Spelling) (negative : Bool) : List Char :=
  if negative then '-' :: s.text else s.text

/-- What the text of a spelling tells. -/
def Spelling.numeral (s : Spelling) (negative : Bool) : Json.Numeral :=
  ⟨negative, Decimal.text s.whole, Decimal.text s.fraction, s.exponent⟩

namespace Json

variable {α : Type}

/-- A reader takes the text of a value off the front of a source and leaves the rest. -/
def Takes (reader : Cursor → Except ReadError (α × Cursor)) (source : List Char) (a : α)
    (rest : List Char) : Prop :=
  ∀ offset, ∃ after, reader ⟨source, offset⟩ = .ok (a, ⟨rest, after⟩)

/-- A text that does not go on with a number. -/
structure EndsNumber (rest : List Char) : Prop where
  noDigit : Text.NoDigit rest
  noMark : ∀ c ∈ rest.head?, c ≠ '.' ∧ c ≠ 'e' ∧ c ≠ 'E'

theorem endsNumber_nil : EndsNumber [] where
  noDigit := nofun
  noMark := nofun

/-! ## Parts of a number -/

theorem takes_readFraction {fraction : List ℕ} {rest : List Char}
    (small : ∀ digit ∈ fraction, digit < 10) (stops : Text.NoDigit rest)
    (noPoint : ∀ c ∈ rest.head?, c ≠ '.') :
    Takes readFraction (Spelling.fractionText fraction ++ rest) (Decimal.text fraction) rest := by
  intro offset
  cases fraction with
  | nil =>
      refine ⟨offset, ?_⟩
      change readFraction ⟨rest, offset⟩ = .ok ([], ⟨rest, offset⟩)
      unfold readFraction
      split
      · rename_i begins
        change rest = _ at begins
        exact absurd rfl (noPoint '.' (by rw [begins]; rfl))
      · rfl
  | cons first others =>
      have digits := Text.takeWhile_isDigit_append (Number.all_isDigit_map_digitChar small) stops
      refine ⟨offset + 1 + (others.length + 1), ?_⟩
      change readFraction ⟨'.' :: ((first :: others).map Number.digitChar ++ rest), offset⟩ = _
      simp only [readFraction, digits]
      simp [Cursor.skip, Decimal.text]

theorem takes_readExponent_none {rest : List Char} (noMark : ∀ c ∈ rest.head?, c ≠ 'e' ∧ c ≠ 'E')
    (isZero : Bool) : Takes (readExponent isZero) rest none rest := by
  intro offset
  refine ⟨offset, ?_⟩
  cases rest with
  | nil => rfl
  | cons c others =>
      rcases noMark c rfl with ⟨notLower, notUpper⟩
      simp [readExponent, notLower, notUpper]

theorem takes_readExponentDigits {digits rest : List Char} (nonempty : digits ≠ [])
    (all : ∀ c ∈ digits, isDigit c = true) (stops : Text.NoDigit rest)
    (size : ofDigits 10 digits ≤ largestExponent) (negative isZero : Bool) :
    Takes (readExponentDigits negative isZero) (digits ++ rest)
      (if negative then -(ofDigits 10 digits : ℤ) else ofDigits 10 digits) rest := by
  intro offset
  have taken := Text.takeWhile_isDigit_append all stops
  have noneBeyond : (List.range digits.length).find? (fun i =>
      decide (largestExponent < ofDigits 10 (digits.take (i + 1)))) = none := by
    rw [List.find?_eq_none]
    intro i _
    have := Text.ofDigits_le_append 10 (digits.take (i + 1)) (digits.drop (i + 1)) (by norm_num)
    rw [List.take_append_drop] at this
    simp only [decide_eq_true_eq]
    omega
  refine ⟨offset + digits.length, ?_⟩
  simp only [readExponentDigits, taken, noneBeyond, List.isEmpty_iff, nonempty, if_false,
    Cursor.skip, List.drop_left]

theorem takes_readExponent {exponent : Option ℤ} {rest : List Char}
    (size : ∀ e ∈ exponent, e.natAbs ≤ largestExponent) (stops : EndsNumber rest) (isZero : Bool) :
    Takes (readExponent isZero) (Spelling.exponentText exponent ++ rest) exponent rest := by
  cases exponent with
  | none => exact takes_readExponent_none (fun c mem => (stops.noMark c mem).2) isZero
  | some e =>
      have nonempty : Number.natText 10 e.natAbs ≠ [] := by
        rw [Number.natText, ne_eq, List.map_eq_nil_iff]
        exact Number.digits_ne_nil _
      have taken := takes_readExponentDigits nonempty (Number.all_isDigit_natText _) stops.noDigit
        (by rw [Number.ofDigits_natText]; exact size e rfl) (e < 0) isZero
      rw [Number.ofDigits_natText] at taken
      have value : (if decide (e < 0) then -(e.natAbs : ℤ) else e.natAbs) = e := by
        by_cases negative : e < 0
        · simp only [negative, decide_true, if_true]
          omega
        · simp only [negative, decide_false, Bool.false_eq_true, if_false]
          omega
      rw [value] at taken
      intro offset
      rcases taken (offset + 2) with ⟨after, read⟩
      refine ⟨after, ?_⟩
      by_cases negative : e < 0
      all_goals
        simp only [negative, decide_true, decide_false] at read
        simp [Spelling.exponentText, readExponent, Cursor.skip, negative, read, bind, Except.bind]
        rfl

/-! ## Numbers -/

variable (convert : Numeral → Option Binary64)

/-- A number after the digits in front of its point. -/
def readAfterWhole (negative : Bool) (whole : List Char) (cursor : Cursor) :
    Except ReadError (Json × Cursor) := do
  let (fraction, cursor) ← readFraction cursor
  let (exponent, cursor) ← readExponent (ofDigits 10 (whole ++ fraction) == 0) cursor
  numberRead (convert ⟨negative, whole, fraction, exponent⟩) cursor

theorem readNumber_eq {whole : List ℕ} (small : ∀ digit ∈ whole, digit < 10)
    (leading : whole = [0] ∨ ∃ first rest, whole = first :: rest ∧ first ≠ 0) {more : List Char}
    (stops : Text.NoDigit more) (negative : Bool) (offset : ℕ) :
    readNumber convert negative ⟨Decimal.text whole ++ more, offset⟩ =
      readAfterWhole convert negative (Decimal.text whole) ⟨more, offset + whole.length⟩ := by
  rcases leading with rfl | ⟨first, others, rfl, notZero⟩
  · change readNumber convert negative ⟨'0' :: more, offset⟩ =
      readAfterWhole convert negative ['0'] ⟨more, offset + 1⟩
    cases more with
    | nil => rfl
    | cons d others =>
        have notDigit := stops d rfl
        simp only [readNumber, notDigit, Bool.false_eq_true, if_false]
        rfl
  · have firstSmall := small first List.mem_cons_self
    have isDigit := Number.isDigit_digitChar firstSmall
    have notZeroChar : Number.digitChar first ≠ '0' :=
      mt (Number.digitChar_inj (e := 0) firstSmall (by norm_num)).mp notZero
    have taken := Text.takeWhile_isDigit_append (Number.all_isDigit_map_digitChar
      fun digit mem => small digit (List.mem_cons_of_mem first mem)) stops
    change readNumber convert negative
      ⟨Number.digitChar first :: (others.map Number.digitChar ++ more), offset⟩ = _
    unfold readNumber
    split
    · rename_i begins
      cases begins
    · rename_i begins
      exact absurd (List.cons.inj begins).1 notZeroChar
    · rename_i begins
      cases begins
      have skipped : Cursor.skip ⟨Number.digitChar first :: (others.map Number.digitChar ++ more),
          offset⟩ (Number.digitChar first :: others.map Number.digitChar).length =
            ⟨more, offset + (first :: others).length⟩ := by
        simp [Cursor.skip]
      simp only [isDigit, if_true, notZeroChar, if_false, taken, pure_bind, skipped]
      rfl

theorem noDigit_cons {c : Char} {rest : List Char} (notDigit : isDigit c = false) :
    Text.NoDigit (c :: rest) :=
  Text.stops_cons notDigit rest

theorem noDigit_exponentText (exponent : Option ℤ) {rest : List Char} (stops : Text.NoDigit rest) :
    Text.NoDigit (Spelling.exponentText exponent ++ rest) := by
  cases exponent with
  | none => exact stops
  | some e => exact noDigit_cons rfl

theorem noPoint_exponentText (exponent : Option ℤ) {rest : List Char} (stops : EndsNumber rest) :
    ∀ c ∈ (Spelling.exponentText exponent ++ rest).head?, c ≠ '.' := by
  cases exponent with
  | none => exact fun c mem => (stops.noMark c mem).1
  | some e =>
      intro c mem
      rw [Spelling.exponentText, List.cons_append, List.head?_cons, Option.mem_some_iff] at mem
      exact mem ▸ by decide

theorem noDigit_fractionText (fraction : List ℕ) {rest : List Char} (stops : Text.NoDigit rest) :
    Text.NoDigit (Spelling.fractionText fraction ++ rest) := by
  cases fraction with
  | nil => exact stops
  | cons first others => exact noDigit_cons rfl

/-- A spelling with an exponent that is no larger than those that are told from their digits. -/
structure IsReadable (s : Spelling) : Prop where
  proper : s.IsProper
  size : ∀ e ∈ s.exponent, e.natAbs ≤ largestExponent

/-- From a spelled number a reader takes its parts, and answers what they are converted to. -/
theorem exists_readNumber_eq {s : Spelling} (readable : IsReadable s) (negative : Bool)
    {rest : List Char} (stops : EndsNumber rest) (offset : ℕ) :
    ∃ after, readNumber convert negative ⟨s.text ++ rest, offset⟩ =
      numberRead (convert (s.numeral negative)) ⟨rest, after⟩ := by
  have wholeSmall : ∀ digit ∈ s.whole, digit < 10 :=
    fun digit mem => readable.proper.small digit (List.mem_append_left _ mem)
  have fractionSmall : ∀ digit ∈ s.fraction, digit < 10 :=
    fun digit mem => readable.proper.small digit (List.mem_append_right _ mem)
  have afterFraction := noDigit_exponentText s.exponent stops.noDigit
  rcases takes_readFraction fractionSmall afterFraction (noPoint_exponentText s.exponent stops)
    (offset + s.whole.length) with ⟨behindFraction, fractionRead⟩
  rcases takes_readExponent readable.size stops
    (ofDigits 10 (Decimal.text s.whole ++ Decimal.text s.fraction) == 0) behindFraction with
    ⟨after, exponentRead⟩
  refine ⟨after, ?_⟩
  have behindWhole := noDigit_fractionText s.fraction afterFraction
  rw [Spelling.text, List.append_assoc, List.append_assoc,
    readNumber_eq convert wholeSmall readable.proper.leading behindWhole]
  simp only [readAfterWhole, fractionRead, Except.bind, bind, exponentRead, Spelling.numeral]

/-! ## Converted numbers -/

theorem collect_eq {front digits : List Char}
    (fits : ofDigits 10 (front ++ digits) < Nat.pow 2 64) :
    collect (ofDigits 10 front) digits = (ofDigits 10 (front ++ digits), []) := by
  induction digits generalizing front with
  | nil => rw [collect, List.append_nil]
  | cons c rest ih =>
      have next : ofDigits 10 front * 10 + (Text.digitValue? c).getD 0 =
          ofDigits 10 (front ++ [c]) := by
        rw [ofDigits, ofDigits, List.foldl_append]
        rfl
      have split : front ++ c :: rest = front ++ [c] ++ rest := by simp
      rw [split] at fits ⊢
      have below := (Text.ofDigits_le_append 10 (front ++ [c]) rest (by norm_num)).trans_lt fits
      simp only [collect, next, if_pos below, ih fits]

theorem powerOfTen_spec {k : ℕ} (small : k ≤ 15) :
    (powerOfTen k).isFinite ∧ (powerOfTen k).negative = false ∧
      (powerOfTen k).magnitude = 10 ^ k := by
  have power : 10 ^ k < 2 ^ 53 := by
    calc 10 ^ k ≤ 10 ^ 15 := Nat.pow_le_pow_right (by norm_num) small
      _ < 2 ^ 53 := by norm_num
  have exact_eq := Binary64.ofNat_spec power
  rw [Nat.cast_pow, Nat.cast_ofNat] at exact_eq
  exact exact_eq

/-- A short decimal is rounded without a look at its count of digits. -/
theorem ofDecimal_of_short {significand : ℕ} {exponent : ℤ} (small : significand < 2 ^ 53)
    (near : exponent.natAbs ≤ 15) (negative : Bool) :
    Binary64.ofDecimal negative significand exponent =
      if 0 ≤ exponent then Binary64.round negative (significand * Nat.pow 10 exponent.toNat) 1
      else Binary64.round negative significand (Nat.pow 10 (-exponent).toNat) := by
  have length : (Nat.toDigits 10 significand).length ≤ 16 := by
    rw [Nat.length_toDigits_le_iff (by norm_num) (by norm_num)]
    exact small.trans (by norm_num)
  rw [Binary64.ofDecimal]
  split
  · rename_i zero
    subst zero
    rw [Nat.zero_mul]
    split <;> rfl
  · simp only [if_neg (show ¬ ((Nat.toDigits 10 significand).length : ℤ) + exponent > 310 by omega),
      if_neg (show ¬ ((Nat.toDigits 10 significand).length : ℤ) + exponent < -324 by omega)]

/-- A significand and a power of ten that are numbers themselves are rounded once. -/
theorem scaled?_of_short {significand : ℕ} {exponent : ℤ} (small : significand < 2 ^ 53)
    (near : exponent.natAbs ≤ 15)
    (finite : (Binary64.ofDecimal false significand exponent).isFinite) :
    scaled? significand exponent = some (Binary64.ofDecimal false significand exponent) := by
  rcases Binary64.ofNat_spec small with ⟨isFinite, positive, magnitude_eq⟩
  rw [ofDecimal_of_short small near] at finite ⊢
  rw [scaled?]
  split
  · rename_i nonneg
    rcases powerOfTen_spec (k := exponent.toNat) (by omega) with ⟨powerFinite, powerPos, power_eq⟩
    have product : (Binary64.ofNat significand).mul (powerOfTen exponent.toNat) =
        Binary64.round false (significand * Nat.pow 10 exponent.toNat) 1 := by
      rw [Binary64.mul_eq_round isFinite powerFinite Nat.one_pos, positive, powerPos]
      · rfl
      · rw [magnitude_eq, power_eq, Nat.pow_eq]
        push_cast
        exact div_one _
    rw [if_pos nonneg] at finite
    have notInfinite := Binary64.isInfinite_of_isFinite finite
    simp only [scaleUp?, if_pos (show exponent.toNat ≤ largestPower by rw [largestPower]; omega),
      product, notInfinite, Bool.false_eq_true, if_false]
  · rcases powerOfTen_spec (k := (-exponent).toNat) (by omega) with
      ⟨powerFinite, powerPos, power_eq⟩
    have nonzero : ¬ (powerOfTen (-exponent).toNat).isZero := by
      rw [← Binary64.magnitude_eq_zero_iff, power_eq]
      exact pow_ne_zero _ (by norm_num)
    have quotient : (Binary64.ofNat significand).div (powerOfTen (-exponent).toNat) =
        Binary64.round false significand (Nat.pow 10 (-exponent).toNat) := by
      have power : 0 < Nat.pow 10 (-exponent).toNat := Nat.pow_pos (by norm_num)
      rw [Binary64.div_eq_round isFinite powerFinite nonzero power, positive, powerPos]
      · rfl
      · rw [magnitude_eq, power_eq, Nat.pow_eq, Nat.cast_pow, Nat.cast_ofNat]
    rw [scaleDown, if_pos (by rw [largestPower]; omega), quotient]

/-- A short numeral, without its sign, is converted to the number nearest to it. -/
theorem magnitude?_of_short {numeral : Numeral}
    (small : ofDigits 10 (numeral.whole ++ numeral.fraction) < 2 ^ 53)
    (near : (numeral.exponent.getD 0 - numeral.fraction.length).natAbs ≤ 15)
    (finite : (Binary64.ofDecimal false (ofDigits 10 (numeral.whole ++ numeral.fraction))
      (numeral.exponent.getD 0 - numeral.fraction.length)).isFinite) :
    numeral.magnitude? = some (Binary64.ofDecimal false
      (ofDigits 10 (numeral.whole ++ numeral.fraction))
      (numeral.exponent.getD 0 - numeral.fraction.length)) := by
  have fits : ofDigits 10 (numeral.whole ++ numeral.fraction) < Nat.pow 2 64 :=
    small.trans (by norm_num)
  have front : collect (ofDigits 10 []) numeral.whole = (ofDigits 10 numeral.whole, []) :=
    collect_eq ((Text.ofDigits_le_append 10 _ _ (by norm_num)).trans_lt fits)
  have behind := collect_eq fits
  change collect 0 numeral.whole = _ at front
  simp only [Numeral.magnitude?, front, behind]
  split
  · rename_i integral
    simp only [Bool.and_eq_true, List.isEmpty_iff, Option.isNone_iff_eq_none] at integral
    rw [integral.1.2, integral.2] at near ⊢
    rw [ofDecimal_of_short (by rwa [integral.1.2] at small) near]
    simp [Binary64.ofNat]
  · rw [← scaled?_of_short small near finite]
    simp

theorem sign_ofDecimal_of_short {significand : ℕ} {exponent : ℤ} (small : significand < 2 ^ 53)
    (near : exponent.natAbs ≤ 15) (negative : Bool) :
    (if negative then (Binary64.ofDecimal false significand exponent).neg
      else Binary64.ofDecimal false significand exponent) =
        Binary64.ofDecimal negative significand exponent := by
  cases negative with
  | false => rfl
  | true =>
      rw [if_pos rfl, ofDecimal_of_short small near, ofDecimal_of_short small near]
      split <;> exact Binary64.neg_round _ _ _

/-- A short numeral is converted to the number nearest to it. -/
theorem value?_of_short (numeral : Numeral)
    (small : ofDigits 10 (numeral.whole ++ numeral.fraction) < 2 ^ 53)
    (near : (numeral.exponent.getD 0 - numeral.fraction.length).natAbs ≤ 15)
    (finite : (Binary64.ofDecimal numeral.negative
      (ofDigits 10 (numeral.whole ++ numeral.fraction))
      (numeral.exponent.getD 0 - numeral.fraction.length)).isFinite) :
    numeral.value? = some (Binary64.ofDecimal numeral.negative
      (ofDigits 10 (numeral.whole ++ numeral.fraction))
      (numeral.exponent.getD 0 - numeral.fraction.length)) := by
  have signed := sign_ofDecimal_of_short small near numeral.negative
  rw [← signed] at finite ⊢
  have unsigned : (Binary64.ofDecimal false (ofDigits 10 (numeral.whole ++ numeral.fraction))
      (numeral.exponent.getD 0 - numeral.fraction.length)).isFinite := by
    split at finite <;> exact finite
  rw [Numeral.value?, magnitude?_of_short small near unsigned, Option.map_some]

/-! ## Written numbers -/

/-- A spelling that stands for a number apart from its sign. -/
structure Denotes (s : Spelling) (n : Binary64) : Prop extends IsReadable s where
  value_eq : Binary64.ofDecimal n.negative (Number.ofDigitList (s.whole ++ s.fraction))
    (s.exponent.getD 0 - s.fraction.length) = n

/-- A spelling that the text of a number consists of, apart from its sign. -/
structure WritesNumber (s : Spelling) (n : Binary64) : Prop extends Denotes s n where
  written : numberText n = s.signedText n.negative

/-- A short spelling is converted to its number. -/
theorem Denotes.value?_eq {s : Spelling} {n : Binary64} (denotes : Denotes s n)
    (finite : n.isFinite) (small : Number.ofDigitList (s.whole ++ s.fraction) < 2 ^ 53)
    (near : (s.exponent.getD 0 - s.fraction.length).natAbs ≤ 15) :
    (s.numeral n.negative).value? = some n := by
  have digits_eq : ofDigits 10 (Decimal.text s.whole ++ Decimal.text s.fraction) =
      Number.ofDigitList (s.whole ++ s.fraction) := by
    rw [← Decimal.text_append]
    exact Number.ofDigits_map_digitChar denotes.proper.small
  have length_eq : (Decimal.text s.fraction).length = s.fraction.length := List.length_map _
  have value_eq : Binary64.ofDecimal n.negative
      (ofDigits 10 ((s.numeral n.negative).whole ++ (s.numeral n.negative).fraction))
      ((s.numeral n.negative).exponent.getD 0 - (s.numeral n.negative).fraction.length) = n := by
    rw [Spelling.numeral, digits_eq, length_eq]
    exact denotes.value_eq
  have converted := value?_of_short (s.numeral n.negative)
    (by rw [Spelling.numeral, digits_eq]; exact small)
    (by rw [Spelling.numeral, length_eq]; exact near) (value_eq.symm ▸ finite)
  rw [converted]
  exact congrArg some value_eq

/-- The digits of an integer spell it. -/
theorem denotes_integer {n : Binary64} (whole : n.isInteger) (unsigned : n.isZero → n = .zero) :
    Denotes ⟨Number.digits 10 n.toInt.natAbs, [], none⟩ n := by
  refine ⟨⟨⟨?_, ?_⟩, nofun⟩, ?_⟩
  · rw [List.append_nil]
    exact fun digit mem => Number.lt_of_mem_digits mem
  · rcases Nat.eq_zero_or_pos n.toInt.natAbs with zero | positive
    · exact .inl (by rw [zero, Number.digits_zero])
    · rcases Number.exists_digits_eq_cons positive with ⟨first, rest, split, notZero, -⟩
      exact .inr ⟨first, rest, split, notZero⟩
  · rw [List.append_nil, Number.ofDigitList_digits]
    by_cases none : n.isZero
    · rw [(Binary64.toInt_eq_zero_iff whole).mpr none, unsigned none]
      rfl
    · refine Binary64.ofDecimal_of_covers (Bool.and_eq_true_iff.mp whole).1
        (mt n.significand_eq_zero_iff.mp none) ?_
      rw [Binary64.natAbs_toInt whole]
      simpa using n.covers_magnitude

/-- The shortest decimal of a number is spelled in every layout. -/
theorem exists_denotes_write {n : Binary64} (finite : n.isFinite) (nonzero : n.significand ≠ 0) :
    ∃ s, Denotes s n ∧ NumberLayout.json.write (n.shortest .even) = s.text := by
  rcases Binary64.shortest_spec finite nonzero .even with ⟨proper, covered⟩
  rcases Binary64.shortest_exponent_bounds finite nonzero .even with ⟨low, high⟩
  have spelled : ∃ s, Decimal.Spells s (n.shortest .even)
      (NumberLayout.json.write (n.shortest .even)) :=
    Decimal.exists_spells_write proper (.inr rfl)
  rcases spelled with ⟨s, spells⟩
  refine ⟨s, ⟨⟨spells.proper, ?_⟩, ?_⟩, spells.text_eq⟩
  · intro e mem
    rcases spells.exponent with none | some_
    · rw [none] at mem
      cases mem
    · rw [some_, Option.mem_some_iff] at mem
      rw [← mem, largestExponent]
      omega
  · refine Binary64.ofDecimal_of_covers finite nonzero ?_
    rw [← Spelling.value, spells.value_eq]
    exact covered

/-- Integers below `2 ^ 53` are written by their digits. -/
theorem writesNumber_integer {n : Binary64} (whole : n.isInteger) (unsigned : n.isZero → n = .zero)
    (small : n.toInt.natAbs < 2 ^ 53) :
    WritesNumber ⟨Number.digits 10 n.toInt.natAbs, [], none⟩ n where
  toDenotes := denotes_integer whole unsigned
  written := by
    have sign : n.toInt < 0 ↔ n.negative := by
      by_cases none : n.isZero
      · rw [(Binary64.toInt_eq_zero_iff whole).mpr none, unsigned none]
        decide
      · exact Binary64.toInt_neg_iff whole none
    have text_eq : Number.natText 10 n.toInt.natAbs =
        Spelling.text ⟨Number.digits 10 n.toInt.natAbs, [], none⟩ := (List.append_nil _).symm
    have integral : (n.isInteger && decide (n.toInt.natAbs < Nat.pow 2 53)) = true := by
      rw [whole, Bool.true_and, decide_eq_true_eq]
      exact small
    rw [numberText, (Bool.and_eq_true_iff.mp whole).1, if_neg (by decide), if_pos integral]
    simp only [Number.intText, sign, text_eq, Spelling.signedText]

/-- The text of a number is its sign and a spelling of the number. -/
theorem exists_writesNumber {n : Binary64} (finite : n.isFinite) (unsigned : n.isZero → n = .zero) :
    ∃ s, WritesNumber s n := by
  by_cases integral : n.isInteger && n.toInt.natAbs < Nat.pow 2 53
  · rcases Bool.and_eq_true_iff.mp integral with ⟨whole, small⟩
    exact ⟨_, writesNumber_integer whole unsigned (of_decide_eq_true small)⟩
  · have nonzero : n.significand ≠ 0 := by
      rw [ne_eq, n.significand_eq_zero_iff]
      intro none
      have whole := Binary64.isInteger_of_isZero none
      rw [whole, (Binary64.toInt_eq_zero_iff whole).mpr none] at integral
      exact integral (by decide)
    rcases exists_denotes_write finite nonzero with ⟨s, denotes, text_eq⟩
    refine ⟨s, denotes, ?_⟩
    rw [numberText, finite, if_neg (by decide), if_neg integral, NumberLayout.writeNumber,
      Spelling.signedText, ← text_eq]
    rfl

end Json

end Stencil
