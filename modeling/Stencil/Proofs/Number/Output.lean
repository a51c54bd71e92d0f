import Stencil.Proofs.Number.Layout
import Stencil.Proofs.Number.Literal

/-!
# Numbers in output

The output form of a finite number without a sign is a literal, and the literal is that number.
-/

namespace Stencil

open Text

/-! ## Spellings are literals -/

namespace Spelling

variable {s : Spelling}

theorem allDigits_text {digits : List ℕ} (small : ∀ digit ∈ digits, digit < 10) :
    Number.AllDigits (Decimal.text digits) :=
  Number.all_isDigit_map_digitChar small

theorem writesFraction (small : ∀ digit ∈ s.fraction, digit < 10) :
    Number.WritesFraction (fractionText s.fraction) (Decimal.text s.fraction) := by
  rw [fractionText]
  split
  · rename_i none
    rw [List.isEmpty_iff.mp none]
    exact .absent
  · exact .point (allDigits_text small)

theorem writesExponent (e : Option ℤ) : Number.WritesExponent (exponentText e) (e.getD 0) := by
  cases e with
  | none => exact .absent
  | some e =>
      have nonempty : Number.natText 10 e.natAbs ≠ [] := by
        simpa [Number.natText] using Number.digits_ne_nil e.natAbs
      have all := Number.all_isDigit_natText e.natAbs
      have size := Number.ofDigits_natText e.natAbs
      rw [exponentText, Option.getD_some]
      by_cases negative : e < 0
      · have written : Number.WritesExponent ('e' :: (['-'] ++ _)) _ :=
          .marked (by simp) (by simp) nonempty all
        rw [if_pos rfl, size] at written
        rw [if_pos negative]
        have value : e = -(e.natAbs : ℤ) := by omega
        rwa [← value] at written
      · have written : Number.WritesExponent ('e' :: (['+'] ++ _)) _ :=
          .marked (by simp) (by simp) nonempty all
        rw [if_neg (by decide), size] at written
        rw [if_neg negative]
        have value : e = (e.natAbs : ℤ) := by omega
        rwa [← value] at written

/-- A proper spelling is a literal of the digits and the exponent that it stands for. -/
theorem writesLiteral (proper : s.IsProper) :
    Number.WritesLiteral s.text
      ⟨Number.ofDigitList (s.whole ++ s.fraction), s.exponent.getD 0 - s.fraction.length⟩ := by
  have smallWhole : ∀ digit ∈ s.whole, digit < 10 := fun digit mem =>
    proper.small digit (List.mem_append_left _ mem)
  have smallFraction : ∀ digit ∈ s.fraction, digit < 10 := fun digit mem =>
    proper.small digit (List.mem_append_right _ mem)
  have nonempty : Decimal.text s.whole ++ Decimal.text s.fraction ≠ [] := by
    rcases proper.leading with zero | ⟨first, rest, split, -⟩
    · simp [Decimal.text, zero]
    · simp [Decimal.text, split]
  have written := Number.WritesLiteral.parts (allDigits_text smallWhole)
    (writesFraction smallFraction) (writesExponent s.exponent) nonempty
  have digits_eq : ofDigits 10 (Decimal.text (s.whole ++ s.fraction)) =
      Number.ofDigitList (s.whole ++ s.fraction) := Number.ofDigits_map_digitChar proper.small
  have length_eq : (Decimal.text s.fraction).length = s.fraction.length := List.length_map _
  rwa [← Decimal.text_append, digits_eq, length_eq] at written

end Spelling

/-! ## Output -/

namespace Binary64

theorem eq_zero_of_isZero {n : Binary64} (isZero : n.isZero = true)
    (unsigned : n.negative = false) :
    n = zero := by
  simp only [Binary64.isZero, Bool.and_eq_true, beq_iff_eq] at isZero
  rcases n with ⟨negative, exponent, fraction⟩
  rcases isZero with ⟨rfl, rfl⟩
  cases unsigned
  rfl

theorem toText_of_isFinite {n : Binary64} (finite : n.isFinite) (nonzero : ¬ n.isZero) :
    n.toText = String.ofList (NumberLayout.output.writeNumber n) := by
  rw [toText, isNaN_of_isFinite finite, isInfinite_of_isFinite finite,
    Bool.eq_false_iff.mpr nonzero]
  rfl

theorem toText_of_isZero {n : Binary64} (zero : n.isZero) : n.toText = "0" := by
  rcases n with ⟨negative, exponent, fraction⟩
  simp only [isZero, Bool.and_eq_true, beq_iff_eq] at zero
  rw [zero.1, zero.2]
  cases negative <;> rfl

/-- The output form of a number other than zero spells its shortest decimal. -/
theorem exists_spells_output {n : Binary64} (finite : n.isFinite = true)
    (nonzero : ¬ n.isZero = true) :
    ∃ s, Decimal.Spells s (n.shortest .up) (NumberLayout.output.write (n.shortest .up)) ∧
      n.Covers (n.shortest .up).value := by
  rcases shortest_spec finite (mt n.significand_eq_zero_iff.mp nonzero) .up with ⟨proper, covered⟩
  have spelled : ∃ s, Decimal.Spells s _ (NumberLayout.output.write (n.shortest .up)) :=
    Decimal.exists_spells_write proper (.inl rfl)
  rcases spelled with ⟨s, spells⟩
  exact ⟨s, spells, covered⟩

/-- The output form of a number is one of four words, or a proper spelling with or without a minus
sign in front. -/
theorem toText_cases (n : Binary64) :
    n.toText ∈ ["NaN", "Infinity", "-Infinity", "0"] ∨
      ∃ s : Spelling, s.IsProper ∧
        (n.toText.toList = s.text ∨ n.toText.toList = '-' :: s.text) := by
  rw [toText]
  split
  · simp
  split
  · split <;> simp
  split
  · simp
  rename_i notNaN notInfinite nonzero
  have finite : n.isFinite := by
    by_contra notFinite
    simp_all [isFinite, isNaN, isInfinite]
  rcases exists_spells_output finite nonzero with ⟨s, spells, -⟩
  refine .inr ⟨s, spells.proper, ?_⟩
  rw [String.toList_ofList, NumberLayout.writeNumber, ← spells.text_eq]
  cases n.negative
  · exact .inl rfl
  · exact .inr rfl

/-- The output form of a number is read as the number. -/
theorem exists_writesLiteral_toText {n : Binary64} (finite : n.isFinite = true)
    (unsigned : n.negative = false) :
    ∃ l, Number.WritesLiteral n.toText.toList l ∧ l.value false = n := by
  by_cases isZero : n.isZero
  · rw [toText_of_isZero isZero, eq_zero_of_isZero isZero unsigned]
    have written : Number.WritesLiteral (['0'] ++ ([] ++ [])) ⟨0, 0⟩ :=
      .parts (List.all_eq_true.mp rfl) .absent .absent (by decide)
    exact ⟨_, written, rfl⟩
  · rcases exists_spells_output finite isZero with ⟨s, spells, covered⟩
    have text_eq : NumberLayout.output.writeNumber n = s.text := by
      rw [NumberLayout.writeNumber, unsigned, if_neg (by decide)]
      exact spells.text_eq
    rw [toText_of_isFinite finite isZero, String.toList_ofList, text_eq]
    refine ⟨_, Spelling.writesLiteral spells.proper, ?_⟩
    rw [Number.Literal.value, ← unsigned]
    refine ofDecimal_of_covers finite (mt n.significand_eq_zero_iff.mp isZero) ?_
    rw [← Spelling.value, spells.value_eq]
    exact covered

end Binary64

end Stencil
