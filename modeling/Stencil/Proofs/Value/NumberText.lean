import Stencil.Proofs.Number.Decimal
import Stencil.Proofs.Number.Integer
import Stencil.Proofs.Number.Output
import Stencil.Proofs.Value.NumericText
import Stencil.Proofs.Value.StrictEquality

/-!
# Numbers as texts

The output layout of a decimal spells its value without a superfluous zero.  The scanner of
expressions reads the spelling as one literal, and the conversion of strings reads it with a sign.
So the output form of a number converts to the number, and distinct numbers have distinct output
forms.
-/

namespace Stencil

open Text
open Number (WritesLiteral signs)

/-- Trimming keeps a text without white space. -/
theorem Text.trim_eq_self {s : List Char} (solid : ∀ c ∈ s, isSpace c = false) : trim s = s :=
  trim_eq_self_of_ends (fun c mem => solid c (List.mem_of_head? mem))
    fun c mem => solid c (List.mem_of_getLast? mem)

/-! ## Superfluous zeros -/

/-- A spelling without superfluous zeros: none stands at the end of the fraction, and in front of an
exponent the point stands behind a single digit that is not zero.  The digits of an exponent are
those of a natural number. -/
structure Spelling.IsMinimal (s : Spelling) : Prop extends s.IsProper where
  trailing : s.fraction.getLast? ≠ some 0
  normal : s.exponent ≠ none → ∃ first, s.whole = [first] ∧ first ≠ 0

namespace Decimal

variable {d : Decimal}

/-- A decimal whose first and last digits are not zero. -/
structure IsCanonical (d : Decimal) : Prop extends d.IsProper where
  trailing : d.digits.getLast? ≠ some 0

/-- A part of the digits up to the last one ends with no zero. -/
theorem IsCanonical.getLast?_drop (canonical : d.IsCanonical) (count : ℕ) :
    (d.digits.drop count).getLast? ≠ some 0 := by
  rw [List.getLast?_drop]
  split
  · nofun
  · exact canonical.trailing

/-- The output layout spells a decimal without superfluous zeros, and with an exponent exactly
outside the bounds of the layout. -/
theorem exists_spells_write_output (canonical : d.IsCanonical) :
    ∃ s, Spells s d (NumberLayout.output.write d) ∧ s.IsMinimal ∧
      s.exponent = if 21 ≤ d.exponent ∨ d.exponent ≤ -7 then some d.exponent else none := by
  have proper := canonical.toIsProper
  rcases proper.leading with ⟨first, rest, digits_eq, notZero⟩
  have inside : NumberLayout.output.isPositional d.exponent = true ↔
      ¬ (21 ≤ d.exponent ∨ d.exponent ≤ -7) := by
    simp only [NumberLayout.output, Bool.and_eq_true, decide_eq_true_eq]
    omega
  rw [NumberLayout.write]
  by_cases outside : 21 ≤ d.exponent ∨ d.exponent ≤ -7
  · rw [if_neg (mt inside.mp (not_not_intro outside)), if_pos outside]
    have spells := spells_scientific proper
    have single : d.digits.take 1 = [first] := by rw [digits_eq]; rfl
    exact ⟨_, spells, ⟨spells.proper, canonical.getLast?_drop 1, fun _ => ⟨first, single, notZero⟩⟩,
      rfl⟩
  · rw [if_pos (inside.mpr outside), if_neg outside]
    by_cases negative : d.exponent < 0
    · have spells := spells_positional_of_neg proper negative NumberLayout.output.whole
      refine ⟨_, spells, ⟨spells.proper, ?_, absurd rfl⟩, rfl⟩
      rw [List.getLast?_append, digits_eq, List.getLast?_cons, Option.some_or, ← List.getLast?_cons,
        ← digits_eq]
      exact canonical.trailing
    · by_cases short : d.digits.length ≤ d.exponent.toNat + 1
      · have spells := spells_positional_of_short proper negative short 0
        exact ⟨_, spells, ⟨spells.proper, by simp, absurd rfl⟩, rfl⟩
      · have spells := spells_positional_of_long proper negative short NumberLayout.output.whole
        exact ⟨_, spells, ⟨spells.proper, canonical.getLast?_drop _, absurd rfl⟩, rfl⟩

/-! ## Reading -/

/-- The number nearest to a decimal, with a sign. -/
def nearest (d : Decimal) (negative : Bool) : Binary64 :=
  .ofDecimal negative (Number.ofDigitList d.digits) (d.exponent + 1 - d.digits.length)

/-- The output text of a decimal with a sign. -/
def signedText (d : Decimal) (negative : Bool) : List Char :=
  if negative then '-' :: NumberLayout.output.write d else NumberLayout.output.write d

/-- A spelling of a decimal is a literal, and the literal is rounded as the decimal. -/
theorem Spells.exists_writesLiteral {s : Spelling} {written : List Char}
    (spells : Spells s d written) :
    ∃ l, WritesLiteral written l ∧ ∀ negative, l.value negative = d.nearest negative := by
  rw [spells.text_eq]
  exact ⟨_, Spelling.writesLiteral spells.proper, Binary64.ofDecimal_congr spells.value_eq⟩

end Decimal

namespace Number

variable {written : List Char} {l : Literal}

/-- A literal alone is scanned as one number. -/
theorem WritesLiteral.scan_eq (literal : WritesLiteral written l) :
    Expr.scan (String.ofList written) =
      .ok [⟨0, .number (l.value false)⟩, ⟨written.length, .stop⟩] := by
  have alone : Stops (Expr.goesOn (.number (l.value false))) [] := stops_nil
  rcases Expr.scanToken_append (.number (.decimal literal)) alone with ⟨c, more, split, scanned⟩
  rw [List.append_nil] at scanned
  have tokens := Expr.scanFrom_append 0 blank_nil scanned
  rw [List.nil_append, Expr.scanFrom_blank _ blank_nil] at tokens
  rw [Expr.scan, String.toList_ofList, split, tokens]
  simp [Except.map]

/-- A literal with a sign is converted with the sign. -/
theorem WritesLiteral.ofText_eq (literal : WritesLiteral written l) (negative : Bool) :
    ofText (String.ofList (if negative then '-' :: written else written)) = l.value negative := by
  have solid (c : Char) (mem : c ∈ written) : isSpace c = false :=
    Expr.not_isSpace_of_isLiteralChar (literal.all_isLiteralChar c mem)
  cases negative with
  | false =>
      have noSign : [] ∈ signs := by decide
      refine ofText_of_decimal noSign literal ?_
      rw [String.toList_ofList]
      exact trim_eq_self solid
  | true =>
      have minus : ['-'] ∈ signs := by decide
      refine ofText_of_decimal minus literal ?_
      rw [String.toList_ofList]
      exact trim_eq_self (List.forall_mem_cons.mpr ⟨rfl, solid⟩)

end Number

/-! ## Output -/

/-- Zeros at the end of a multiple are left out of its decimal. -/
theorem Decimal.getLast?_ofMultiple (c : ℕ) (unit : ℤ) :
    (ofMultiple c unit).digits.getLast? ≠ some 0 := by
  intro last
  rw [ofMultiple, List.getLast?_reverse] at last
  have kept := List.head?_dropWhile_not (· == 0) (Number.digits 10 c).reverse
  rw [last] at kept
  cases kept

namespace Binary64

variable {m n : Binary64}

/-- The digits of a number are those of a decimal without superfluous zeros, and the number is the
nearest to it. -/
theorem shortest_canonical (finite : n.isFinite) (nonzero : ¬ n.isZero) :
    (n.shortest .up).IsCanonical ∧ (n.shortest .up).nearest n.negative = n ∧
      n.toText = String.ofList ((n.shortest .up).signedText n.negative) := by
  have significand := mt n.significand_eq_zero_iff.mp nonzero
  rcases shortest_spec finite significand .up with ⟨proper, covered⟩
  have trailing : (n.shortest .up).digits.getLast? ≠ some 0 := by
    rw [shortest_eq]
    exact Decimal.getLast?_ofMultiple _ _
  exact ⟨⟨proper, trailing⟩, ofDecimal_of_covers finite significand covered,
    toText_of_isFinite finite nonzero⟩

theorem toText_of_isNaN (notNumber : n.isNaN) : n.toText = "NaN" := by
  rw [toText, if_pos notNumber]

/-- The output form of a number converts to the number, but for the sign of a zero. -/
theorem toNumber_toText (isNumber : n.isNaN = false) :
    (Value.string n.toText).toNumber = n.dropZeroSign := by
  rw [dropZeroSign]
  split
  · rename_i zero
    rw [toText_of_isZero zero]
    rfl
  rename_i nonzero
  by_cases finite : n.isFinite
  · rcases shortest_canonical finite nonzero with ⟨canonical, nearest, text⟩
    rcases Decimal.exists_spells_write_output canonical with ⟨s, spells, -⟩
    rcases spells.exists_writesLiteral with ⟨l, literal, value⟩
    rw [text]
    exact (literal.ofText_eq n.negative).trans ((value n.negative).trans nearest)
  · rcases n with ⟨negative, exponent, fraction⟩
    simp only [isFinite, bne_iff_ne, not_not] at finite
    subst finite
    simp only [isNaN, beq_self_eq_true, Bool.true_and, bne_eq_false_iff_eq] at isNumber
    subst isNumber
    cases negative <;> rfl

/-! ## Equal numbers -/

theorem order_dropZeroSign (n : Binary64) : n.dropZeroSign.order = n.order := by
  rw [dropZeroSign]
  split
  · rename_i zero
    exact (n.order_eq_zero_iff.mpr zero).symm
  · rfl

theorem isNaN_dropZeroSign (n : Binary64) : n.dropZeroSign.isNaN = n.isNaN := by
  rw [dropZeroSign]
  split
  · rename_i zero
    rw [isZero, Bool.and_eq_true, beq_iff_eq] at zero
    have isNumber : n.isNaN = false := by
      rw [isNaN, zero.1]
      rfl
    exact isNumber.symm
  · rfl

/-- Numbers are equal if they differ in nothing but the sign of a zero. -/
theorem beq_iff_dropZeroSign_eq (isNumber : m.isNaN = false) :
    m.beq n ↔ m.dropZeroSign = n.dropZeroSign := by
  constructor
  · intro equal
    simp only [beq, Bool.and_eq_true, beq_iff_eq] at equal
    rw [dropZeroSign, dropZeroSign]
    by_cases zero : m.isZero
    · have zero' : n.isZero := n.order_eq_zero_iff.mp (equal.2 ▸ m.order_eq_zero_iff.mpr zero)
      rw [if_pos zero, if_pos zero']
    · rw [eq_of_order_eq zero equal.2]
  · intro same
    have order := congrArg Binary64.order same
    have alike := congrArg Binary64.isNaN same
    rw [order_dropZeroSign, order_dropZeroSign] at order
    rw [isNaN_dropZeroSign, isNaN_dropZeroSign, isNumber] at alike
    simp [beq, isNumber, ← alike, order]

theorem toNumber_toText_beq (isNumber : n.isNaN = false) :
    (Value.string n.toText).toNumber.beq n := by
  have unsigned := n.isNaN_dropZeroSign.trans isNumber
  rw [toNumber_toText isNumber, beq_iff_dropZeroSign_eq unsigned, dropZeroSign_dropZeroSign]

theorem toText_dropZeroSign (n : Binary64) : n.dropZeroSign.toText = n.toText := by
  rw [dropZeroSign]
  split
  · rename_i zero
    rw [toText_of_isZero zero]
    rfl
  · rfl

theorem isNaN_toNumber_toText (n : Binary64) :
    (Value.string n.toText).toNumber.isNaN = n.isNaN := by
  by_cases notNumber : n.isNaN
  · rw [toText_of_isNaN notNumber, notNumber]
    rfl
  · rw [toNumber_toText (Bool.eq_false_iff.mpr notNumber), isNaN_dropZeroSign]

/-- Output forms are the same for equal numbers, and for no others but NaNs. -/
theorem toText_eq_iff : m.toText = n.toText ↔ m.beq n ∨ m.isNaN ∧ n.isNaN := by
  constructor
  · intro same
    have alike : m.isNaN = n.isNaN := by
      rw [← isNaN_toNumber_toText m, same, isNaN_toNumber_toText]
    by_cases notNumber : m.isNaN
    · exact .inr ⟨notNumber, alike ▸ notNumber⟩
    · have isNumber := Bool.eq_false_iff.mpr notNumber
      rw [beq_iff_dropZeroSign_eq isNumber, ← toNumber_toText isNumber, same,
        toNumber_toText (alike ▸ isNumber)]
      exact .inl rfl
  · rintro (equal | ⟨notNumber, notNumber'⟩)
    · have isNumber : m.isNaN = false := by
        simp only [beq, Bool.and_eq_true, Bool.not_eq_true'] at equal
        exact equal.1.1
      rw [← toText_dropZeroSign m, (beq_iff_dropZeroSign_eq isNumber).mp equal,
        toText_dropZeroSign]
    · rw [toText_of_isNaN notNumber, toText_of_isNaN notNumber']

end Binary64

/-- The output layout is faithful.  It spells every decimal exactly, without a superfluous zero and
with an exponent only from 21 on and up to -7; the spelling is scanned as one number, and with its
sign it converts to the number nearest to the decimal.  So the output form of a number converts to
the number, and distinct numbers have distinct output forms. -/
theorem Value.output_faithful :
    (∀ d : Decimal, d.IsCanonical → ∀ negative : Bool,
      (∃ s : Spelling, s.IsMinimal ∧ NumberLayout.output.write d = s.text ∧ s.value = d.value ∧
        s.exponent = if 21 ≤ d.exponent ∨ d.exponent ≤ -7 then some d.exponent else none) ∧
      Expr.scan (String.ofList (NumberLayout.output.write d)) =
        .ok [⟨0, .number (d.nearest false)⟩, ⟨(NumberLayout.output.write d).length, .stop⟩] ∧
      (string (String.ofList (d.signedText negative))).toNumber = d.nearest negative) ∧
    (∀ n : Binary64, n.isFinite → ¬ n.isZero →
      (n.shortest .up).IsCanonical ∧ (n.shortest .up).nearest n.negative = n ∧
      n.toText = String.ofList ((n.shortest .up).signedText n.negative)) ∧
    (∀ n : Binary64, n.isNaN = false → (string n.toText).toNumber.beq n) ∧
    ∀ m n : Binary64, m.toText = n.toText ↔ m.beq n ∨ m.isNaN ∧ n.isNaN := by
  refine ⟨fun d canonical negative => ?_, fun _ => Binary64.shortest_canonical,
    fun _ => Binary64.toNumber_toText_beq, fun _ _ => Binary64.toText_eq_iff⟩
  rcases Decimal.exists_spells_write_output canonical with ⟨s, spells, minimal, exponent⟩
  rcases spells.exists_writesLiteral with ⟨l, literal, value⟩
  refine ⟨⟨s, minimal, spells.text_eq, spells.value_eq, exponent⟩, ?_, ?_⟩
  · rw [literal.scan_eq, value]
  · exact (literal.ofText_eq negative).trans (value negative)

/-- The first exponent below the bounds of the layout, a number of that size, and an infinity. -/
theorem Value.output_faithful_exponent :
    Decimal.IsCanonical ⟨[1, 2], -7⟩ ∧ NumberLayout.output.write ⟨[1, 2], -7⟩ = "1.2e-7".toList ∧
      Expr.scan "1.2e-7" = .ok [⟨0, .number (.ofDecimal false 12 (-8))⟩, ⟨6, .stop⟩] ∧
      (string "-1.2e-7").toNumber = .ofDecimal true 12 (-8) ∧
      (Binary64.shortest .up ⟨true, 1000, 1⟩).nearest true = ⟨true, 1000, 1⟩ ∧
      (string (Binary64.infinity true).toText).toNumber.beq (.infinity true) := by
  have canonical : Decimal.IsCanonical ⟨[1, 2], -7⟩ :=
    ⟨⟨by decide, 1, [2], rfl, by decide⟩, by decide⟩
  have written : NumberLayout.output.write ⟨[1, 2], -7⟩ = "1.2e-7".toList := by
    decide +kernel
  rcases Value.output_faithful.1 _ canonical true with ⟨-, scanned, converted⟩
  rcases Value.output_faithful.2.1 ⟨true, 1000, 1⟩ rfl (by decide) with ⟨-, nearest, -⟩
  rw [Decimal.signedText, written] at converted
  rw [written, String.ofList_toList] at scanned
  exact ⟨canonical, written, scanned, converted, nearest,
    Value.output_faithful.2.2.1 (.infinity true) rfl⟩

end Stencil
