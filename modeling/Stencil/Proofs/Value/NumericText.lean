import Stencil.Proofs.Value.Numeral

/-!
# Texts that convert to numbers

A text converts to a number if, without white space at its ends, it is empty, the name of infinity,
a decimal literal or a hexadecimal one.  The reader of hexadecimal digits also takes a sign in front
of them, so that a sign behind `0x` is accepted, where no literal has one.
-/

namespace Stencil

open Text

namespace Binary64

theorem isNaN_ofDecimal (negative : Bool) (digits : Nat) (exponent : Int) :
    (ofDecimal negative digits exponent).isNaN = false := by
  unfold ofDecimal
  split
  · rfl
  · dsimp only
    split_ifs
    · rfl
    · rfl
    · exact isNaN_round _ _ _
    · exact isNaN_round _ _ _

theorem isNaN_ofInt (n : Int) : (ofInt n).isNaN = false :=
  isNaN_round _ _ _

end Binary64

namespace Number

/-- What may stand in front of an unsigned literal: nothing or a sign. -/
def signs : List (List Char) :=
  [[], ['+'], ['-']]

/-- The texts that stand for a number. -/
inductive Denotes : List Char → Binary64 → Prop where
  | blank : Denotes [] .zero
  | infinity {sign : List Char} :
      sign ∈ signs → Denotes (sign ++ "Infinity".toList) (.infinity (decide (sign = ['-'])))
  | decimal {sign written : List Char} {l : Literal} :
      sign ∈ signs →
      WritesLiteral written l →
      Denotes (sign ++ written) (l.value (decide (sign = ['-'])))
  | hex {mark : Char} {digits : List Char} :
      mark ∈ ['x', 'X'] →
      digits ≠ [] →
      (∀ c ∈ digits, isHexDigit c = true) →
      ofDigits 16 digits < Nat.pow 2 63 →
      Denotes ('0' :: mark :: digits) (.ofNat (ofDigits 16 digits))

/-- The texts of hexadecimal words with a sign behind their mark. -/
inductive DenotesSignedWord : List Char → Binary64 → Prop where
  | hex {mark sign : Char} {digits : List Char} {word : Int} :
      mark ∈ ['x', 'X'] →
      sign ∈ ['+', '-'] →
      digits ≠ [] →
      (∀ c ∈ digits, isHexDigit c = true) →
      word = (if sign = '-' then -(ofDigits 16 digits : Int) else ofDigits 16 digits) →
      -(Nat.pow 2 63 : Int) ≤ word →
      word < (Nat.pow 2 63 : Int) →
      DenotesSignedWord ('0' :: mark :: sign :: digits) (.ofInt word)

variable {text written digits : List Char} {l : Literal} {m n : Binary64} {source : String}
  {mark : Char} {word : Int}

theorem Denotes.isNaN_eq_false (denotes : Denotes text n) : n.isNaN = false := by
  cases denotes with
  | blank => rfl
  | infinity _ => rfl
  | decimal _ _ => exact Binary64.isNaN_ofDecimal _ _ _
  | hex _ _ _ _ => exact Binary64.isNaN_round _ _ _

theorem DenotesSignedWord.isNaN_eq_false (denotes : DenotesSignedWord text n) :
    n.isNaN = false := by
  cases denotes with
  | hex _ _ _ _ _ _ _ => exact Binary64.isNaN_ofInt _

/-- No text that stands for a number has a sign behind a hexadecimal mark. -/
theorem Denotes.not_denotesSignedWord (denotes : Denotes text n) : ¬ DenotesSignedWord text m := by
  rintro @⟨mark, sign, digits, word, isMark, isSign, -, -, -, -, -⟩
  have noLiteral : isLiteralChar mark = false := by
    simp only [List.mem_cons, List.not_mem_nil, or_false] at isMark
    rcases isMark with rfl | rfl <;> decide
  have noHex : isHexDigit sign = false := by
    simp only [List.mem_cons, List.not_mem_nil, or_false] at isSign
    rcases isSign with rfl | rfl <;> decide
  generalize split : '0' :: mark :: sign :: digits = text at denotes
  cases denotes with
  | blank => cases split
  | infinity isSign =>
      simp only [signs, List.mem_cons, List.not_mem_nil, or_false] at isSign
      rcases isSign with rfl | rfl | rfl <;> cases split
  | decimal isSign literal =>
      simp only [signs, List.mem_cons, List.not_mem_nil, or_false] at isSign
      rcases isSign with rfl | rfl | rfl
      · rw [List.nil_append] at split
        have := literal.all_isLiteralChar mark (by simp [← split])
        rw [noLiteral] at this
        cases this
      · cases split
      · cases split
  | hex _ _ all _ =>
      cases split
      have := all sign List.mem_cons_self
      rw [noHex] at this
      cases this

/-! ## Decimal literals -/

theorem readDecimal?_append {sign : List Char} (isSign : sign ∈ signs)
    (literal : WritesLiteral written l) :
    readDecimal? (sign ++ written) = some (l.value (decide (sign = ['-']))) := by
  have read := readLiteral_append literal stops_nil
  rw [List.append_nil] at read
  have taken : readSign (sign ++ written) = (decide (sign = ['-']), written) := by
    simp only [signs, List.mem_cons, List.not_mem_nil, or_false] at isSign
    rcases isSign with rfl | rfl | rfl
    · exact literal.readSign_eq
    · rfl
    · rfl
  rw [readDecimal?, taken]
  simp only [read]

/-- The texts of decimal numbers: literals behind a sign or none. -/
inductive WritesDecimal : List Char → Binary64 → Prop where
  | signed {sign written : List Char} {l : Literal} :
      sign ∈ signs →
      WritesLiteral written l →
      WritesDecimal (sign ++ written) (l.value (decide (sign = ['-'])))

theorem writesDecimal_of_readDecimal? (read : readDecimal? text = some n) :
    WritesDecimal text n := by
  rcases exists_of_readSign text with ⟨sign, isSign, split, negative⟩
  have negative : (readSign text).1 = decide (sign = ['-']) := by
    rw [Bool.eq_iff_iff, negative, decide_eq_true_iff]
  unfold readDecimal? at read
  dsimp only at read
  split at read
  · rename_i l literal
    rcases exists_of_readLiteral literal with ⟨written, writes, unsigned⟩
    rw [List.append_nil] at unsigned
    cases read
    rw [negative, split, unsigned]
    exact .signed isSign writes
  · cases read

theorem readDecimal?_eq_some_iff : readDecimal? text = some n ↔ WritesDecimal text n := by
  refine ⟨writesDecimal_of_readDecimal?, fun writes => ?_⟩
  rcases writes with ⟨isSign, literal⟩
  exact readDecimal?_append isSign literal

theorem denotes_of_readDecimal? (read : readDecimal? text = some n) : Denotes text n := by
  rcases writesDecimal_of_readDecimal? read with ⟨isSign, literal⟩
  exact .decimal isSign literal

/-! ## Hexadecimal words -/

theorem readHexWord?_cons_sign {sign : Char} (isSign : sign ∈ ['+', '-']) (nonempty : digits ≠ [])
    (all : ∀ c ∈ digits, isHexDigit c = true)
    (size : word = if sign = '-' then -(ofDigits 16 digits : Int) else ofDigits 16 digits)
    (low : -(Nat.pow 2 63 : Int) ≤ word) (high : word < (Nat.pow 2 63 : Int)) :
    readHexWord? (sign :: digits) = some word := by
  have isWord : ¬ (digits.isEmpty || !digits.all isHexDigit) = true := by
    simpa [nonempty] using all
  have plus : readSign ('+' :: digits) = (false, digits) := rfl
  have minus : readSign ('-' :: digits) = (true, digits) := rfl
  simp only [List.mem_cons, List.not_mem_nil, or_false] at isSign
  rcases isSign with rfl | rfl
  · rw [if_neg (by decide)] at size
    rw [readHexWord?, plus]
    simp only [if_neg isWord, Bool.false_eq_true, if_false]
    rw [if_pos (by omega), size]
  · rw [if_pos rfl] at size
    rw [readHexWord?, minus]
    simp only [if_neg isWord, if_true]
    rw [if_pos (by omega), size]

/-- Behind the mark of a hexadecimal literal, a word is unsigned or has a sign. -/
theorem denotes_of_readHexWord? (isMark : mark ∈ ['x', 'X'])
    (read : readHexWord? digits = some word) :
    Denotes ('0' :: mark :: digits) (.ofInt word) ∨
      DenotesSignedWord ('0' :: mark :: digits) (.ofInt word) := by
  have positive : 0 < Nat.pow 2 63 := Nat.two_pow_pos _
  rcases exists_of_readSign digits with ⟨sign, isSign, split, negative⟩
  unfold readHexWord? at read
  dsimp only at read
  split at read
  · cases read
  rename_i isWord
  simp only [Bool.or_eq_true, List.isEmpty_iff, Bool.not_eq_true', not_or, Bool.not_eq_false,
    List.all_eq_true] at isWord
  rcases isWord with ⟨nonempty, all⟩
  generalize (readSign digits).2 = unsigned at *
  simp only [negative] at read
  simp only [List.mem_cons, List.not_mem_nil, or_false] at isSign
  rcases isSign with rfl | rfl | rfl
  · rw [if_neg (by decide), Option.ite_none_right_eq_some] at read
    rcases read with ⟨small, read⟩
    cases read
    rw [split, Binary64.ofInt_natCast]
    exact .inl (.hex isMark nonempty all small)
  · rw [if_neg (by decide), Option.ite_none_right_eq_some] at read
    rcases read with ⟨small, read⟩
    cases read
    rw [split]
    exact .inr (.hex isMark (by decide) nonempty all rfl (by omega) (by omega))
  · rw [if_pos rfl, Option.ite_none_right_eq_some] at read
    rcases read with ⟨small, read⟩
    cases read
    rw [split]
    exact .inr (.hex isMark (by decide) nonempty all rfl (by omega) (by omega))

/-! ## Conversion -/

theorem ofText_of_mark (isMark : mark ∈ ['x', 'X'])
    (split : trim source.toList = '0' :: mark :: digits) :
    ofText source = ((readHexWord? digits).map Binary64.ofInt).getD Binary64.nan := by
  have isMark : (decide (mark = 'x') || decide (mark = 'X')) = true := by
    simpa using isMark
  unfold ofText
  simp only [split, isMark, if_true]
  cases readHexWord? digits <;> rfl

theorem ofText_of_denotesSignedWord (denotes : DenotesSignedWord (trim source.toList) n) :
    ofText source = n := by
  generalize split : trim source.toList = text at denotes
  cases denotes with
  | hex isMark isSign nonempty all size low high =>
      rw [ofText_of_mark isMark split, readHexWord?_cons_sign isSign nonempty all size low high]
      rfl

/-- Behind a sign, a literal is neither hexadecimal nor the name of infinity. -/
theorem ofText_of_decimal {sign : List Char} (isSign : sign ∈ signs)
    (literal : WritesLiteral written l) (split : trim source.toList = sign ++ written) :
    ofText source = l.value (decide (sign = ['-'])) := by
  have read := readDecimal?_append isSign literal
  have noInfinity : written ≠ "Infinity".toList := by
    rintro rfl
    exact absurd (literal.all_isLiteralChar 'I' (by decide)) (by decide)
  have plus : "+Infinity".toList = '+' :: "Infinity".toList := rfl
  have minus : "-Infinity".toList = '-' :: "Infinity".toList := rfl
  simp only [signs, List.mem_cons, List.not_mem_nil, or_false] at isSign
  rcases isSign with rfl | rfl | rfl
  · exact ofText_of_writesLiteral literal split
  all_goals
    rw [List.singleton_append] at split read
    unfold ofText
    simp only [split, read]
    simp only [plus, minus, List.cons.injEq, noInfinity, and_false]
    rfl

theorem ofText_of_infinity {sign : List Char} (isSign : sign ∈ signs)
    (split : trim source.toList = sign ++ "Infinity".toList) :
    ofText source = .infinity (decide (sign = ['-'])) := by
  simp only [signs, List.mem_cons, List.not_mem_nil, or_false] at isSign
  rcases isSign with rfl | rfl | rfl
  all_goals
    unfold ofText
    rw [split]
    rfl

/-- A text converts to the number that it stands for. -/
theorem ofText_of_denotes (denotes : Denotes (trim source.toList) n) : ofText source = n := by
  generalize split : trim source.toList = text at denotes
  cases denotes with
  | blank =>
      unfold ofText
      rw [split]
  | infinity isSign => exact ofText_of_infinity isSign split
  | decimal isSign literal => exact ofText_of_decimal isSign literal split
  | hex isMark nonempty all small =>
      rw [ofText_of_hex isMark nonempty all split, if_pos small]

/-- What converts to a number stands for it, or it is hexadecimal with a sign behind the mark. -/
theorem denotes_of_ofText (isNumber : (ofText source).isNaN = false) :
    Denotes (trim source.toList) (ofText source) ∨
      DenotesSignedWord (trim source.toList) (ofText source) := by
  have decimal (text : List Char) (number : ((readDecimal? text).getD Binary64.nan).isNaN = false) :
      Denotes text ((readDecimal? text).getD Binary64.nan) := by
    cases read : readDecimal? text with
    | none =>
        rw [read] at number
        cases number
    | some n => exact denotes_of_readDecimal? read
  have infinity (sign : List Char) (isSign : sign ∈ signs) :
      Denotes (sign ++ "Infinity".toList) (.infinity (decide (sign = ['-']))) := .infinity isSign
  unfold ofText at isNumber ⊢
  dsimp only at isNumber ⊢
  generalize trim source.toList = text at isNumber ⊢
  split at isNumber
  · exact .inl .blank
  · rename_i mark hex
    by_cases isMark : (decide (mark = 'x') || decide (mark = 'X')) = true
    · simp only [if_pos isMark] at isNumber ⊢
      cases read : readHexWord? hex with
      | none =>
          rw [read] at isNumber
          cases isNumber
      | some word => exact denotes_of_readHexWord? (by simpa using isMark) read
    · simp only [if_neg isMark] at isNumber ⊢
      exact .inl (decimal _ isNumber)
  · split
    · rename_i positive
      simp only [Bool.or_eq_true, decide_eq_true_eq] at positive
      rcases positive with rfl | rfl
      · exact .inl (infinity [] (by decide))
      · exact .inl (infinity ['+'] (by decide))
    · split
      · rename_i negative
        rw [negative]
        exact .inl (infinity ['-'] (by decide))
      · rename_i notPositive notNegative
        rw [if_neg notPositive, if_neg notNegative] at isNumber
        exact .inl (decimal _ isNumber)

end Number

open Number (Denotes DenotesSignedWord)

/-- A string converts to a number other than NaN exactly if, without white space at its ends, it
stands for a number, or it is a hexadecimal word with a sign behind its mark, which stands for
none. -/
theorem Value.isNaN_toNumber_string (s : String) :
    ((Value.string s).toNumber.isNaN = false ↔
      (∃ n, Denotes (trim s.toList) n) ∨ ∃ n, DenotesSignedWord (trim s.toList) n) ∧
    ¬ ((∃ n, Denotes (trim s.toList) n) ∧ ∃ n, DenotesSignedWord (trim s.toList) n) := by
  have converted : (Value.string s).toNumber = Number.ofText s := rfl
  rw [converted]
  constructor
  · constructor
    · intro isNumber
      rcases Number.denotes_of_ofText isNumber with denotes | signed
      · exact .inl ⟨_, denotes⟩
      · exact .inr ⟨_, signed⟩
    · rintro (⟨n, denotes⟩ | ⟨n, signed⟩)
      · rw [Number.ofText_of_denotes denotes]
        exact denotes.isNaN_eq_false
      · rw [Number.ofText_of_denotesSignedWord signed]
        exact signed.isNaN_eq_false
  · rintro ⟨⟨n, denotes⟩, m, signed⟩
    exact denotes.not_denotesSignedWord signed

/-- A minus sign behind the mark of a hexadecimal literal is accepted. -/
theorem Value.toNumber_signed_hex :
    (¬ ∃ n, Denotes (trim "0x-5".toList) n) ∧
      (Value.string "0x-5").toNumber = Binary64.ofInt (-5) ∧
      (Value.string "0x-5").toNumber.isNaN = false := by
  have text : trim "0x-5".toList = ['0', 'x', '-', '5'] := by decide
  have signed : DenotesSignedWord (trim "0x-5".toList) (Binary64.ofInt (-5)) := by
    rw [text]
    have digits : ∀ c ∈ ['5'], isHexDigit c = true := List.forall_mem_singleton.mpr rfl
    exact .hex (by decide) (by decide) (by decide) digits (by decide) (by decide) (by decide)
  have converted : (Value.string "0x-5").toNumber = Binary64.ofInt (-5) :=
    Number.ofText_of_denotesSignedWord signed
  refine ⟨?_, converted, ?_⟩
  · rintro ⟨n, denotes⟩
    exact denotes.not_denotesSignedWord signed
  · rw [converted]
    exact signed.isNaN_eq_false

end Stencil
