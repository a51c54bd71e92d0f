import Stencil.Proofs.Expr.Scanning
import Stencil.Value.Basic

/-!
# Numerals in texts

A text converts to the number that it is a literal of.  Hexadecimal literals have 64 bits, but a
text is converted through a signed word, so that those of 64 bits convert to no number.
-/

namespace Stencil

open Text

/-! ## Rounding gives a number -/

namespace Binary64

theorem isNaN_pack (negative : Bool) (significand : Nat) (scale : Int) :
    (pack negative significand scale).isNaN = false := by
  unfold pack
  split
  · rfl
  · generalize (scale + 1075).toNat + (if significand = Nat.pow 2 53 then 1 else 0) = exponent
    dsimp only
    split
    · rfl
    · rename_i small
      have finite : Fin.ofNat 2048 exponent ≠ 2047 := by
        intro same
        have value := congrArg Fin.val same
        rw [Fin.val_ofNat, Nat.mod_eq_of_lt (by omega)] at value
        exact small (Nat.le_of_eq value.symm)
      rw [isNaN, beq_false_of_ne finite, Bool.false_and]

theorem isNaN_round (negative : Bool) (num den : Nat) : (round negative num den).isNaN = false := by
  unfold round
  split
  · rfl
  · exact isNaN_pack _ _ _

theorem ofInt_natCast (n : Nat) : ofInt n = ofNat n := by
  simp [ofInt, ofNat, show ¬ (n : Int) < 0 by omega]

end Binary64

namespace Number

/-! ## Literals in texts -/

variable {written digits : List Char} {l : Literal} {source : String} {mark c : Char}

/-- No literal begins with a sign. -/
theorem WritesLiteral.readSign_eq (literal : WritesLiteral written l) :
    readSign written = (false, written) := by
  rcases literal.exists_cons with ⟨c, more, rfl, begins⟩
  have noSign : c ≠ '-' ∧ c ≠ '+' := by
    rcases begins with digit | ⟨rfl, -⟩
    · constructor <;> (rintro rfl; exact absurd digit (by decide))
    · decide
  unfold readSign
  split
  · exact absurd (List.cons.inj ‹_›).1 noSign.1
  · exact absurd (List.cons.inj ‹_›).1 noSign.2
  · rfl

theorem WritesLiteral.readDecimal?_eq (literal : WritesLiteral written l) :
    readDecimal? written = some (l.value false) := by
  have read := readLiteral_append literal stops_nil
  rw [List.append_nil] at read
  rw [readDecimal?, literal.readSign_eq]
  simp only [read]

theorem ofText_of_writesLiteral (literal : WritesLiteral written l)
    (text : trim source.toList = written) : ofText source = l.value false := by
  have noInfinity : written ≠ "Infinity".toList ∧ written ≠ "+Infinity".toList ∧
      written ≠ "-Infinity".toList := by
    refine ⟨?_, ?_, ?_⟩ <;>
      (rintro rfl; exact absurd (literal.all_isLiteralChar 'I' (by decide)) (by decide))
  unfold ofText
  simp only [text]
  split
  · rcases literal.exists_cons with ⟨c, more, split, -⟩
    cases split
  · rename_i x hex
    have accepted := literal.all_isLiteralChar x (by simp)
    have noMark : ¬ (decide (x = 'x') || decide (x = 'X')) = true := by
      simp only [Bool.or_eq_true, decide_eq_true_eq, not_or]
      constructor <;> (rintro rfl; exact absurd accepted (by decide))
    rw [if_neg noMark, literal.readDecimal?_eq, Option.getD_some]
  · simp only [noInfinity, decide_false, Bool.or_self, Bool.false_eq_true, if_false,
      literal.readDecimal?_eq, Option.getD_some]

/-- Without a sign a word has 63 bits. -/
theorem readHexWord?_of_all (nonempty : digits ≠ []) (all : ∀ c ∈ digits, isHexDigit c = true) :
    readHexWord? digits =
      if ofDigits 16 digits < Nat.pow 2 63 then some (ofDigits 16 digits : Int) else none := by
  have unsigned : readSign digits = (false, digits) := by
    unfold readSign
    split
    · exact absurd (all '-' List.mem_cons_self) (by decide)
    · exact absurd (all '+' List.mem_cons_self) (by decide)
    · rfl
  have word : ¬ (digits.isEmpty || !digits.all isHexDigit) = true := by
    simpa [nonempty] using all
  rw [readHexWord?, unsigned]
  simp only [if_neg word, Bool.false_eq_true, if_false]

theorem ofText_of_hex (isMark : mark ∈ ['x', 'X']) (nonempty : digits ≠ [])
    (all : ∀ c ∈ digits, isHexDigit c = true) (text : trim source.toList = '0' :: mark :: digits) :
    ofText source =
      if ofDigits 16 digits < Nat.pow 2 63 then Binary64.ofNat (ofDigits 16 digits)
      else Binary64.nan := by
  have isMark : (decide (mark = 'x') || decide (mark = 'X')) = true := by
    simpa using isMark
  unfold ofText
  simp only [text, isMark, if_true, readHexWord?_of_all nonempty all]
  split_ifs with small
  · exact Binary64.ofInt_natCast _
  · rfl

/-- Hexadecimal literals that need all of 64 bits. -/
def IsWide (s : List Char) : Prop :=
  ∃ digits, afterHexMark? s = some digits ∧ Nat.pow 2 63 ≤ ofDigits 16 digits

theorem isWide_cons_iff (isMark : mark ∈ ['x', 'X']) :
    IsWide ('0' :: mark :: digits) ↔ Nat.pow 2 63 ≤ ofDigits 16 digits := by
  have marked : afterHexMark? ('0' :: mark :: digits) = some digits := by
    simp only [List.mem_cons, List.not_mem_nil, or_false] at isMark
    rcases isMark with rfl | rfl <;> rfl
  simp [IsWide, marked]

theorem not_isWide_of_writesLiteral (literal : WritesLiteral written l) : ¬ IsWide written := by
  rintro ⟨digits, marked, -⟩
  have decimal := Expr.afterHexMark?_append literal stops_nil
  rw [List.append_nil, marked] at decimal
  cases decimal

end Number

/-- A text without white space at its ends that is scanned as one number converts to that number,
unless it is a hexadecimal literal that needs all of 64 bits.  Such a text converts to no number. -/
theorem Value.toNumber_of_scan {source : String} {lexemes : List Expr.Lexeme} {n : Binary64}
    (solid : trim source.toList = source.toList) (scanned : Expr.scan source = .ok lexemes)
    (single : Expr.tokensOf lexemes = [.number n, .stop]) :
    (Number.IsWide source.toList → (Value.string source).toNumber = Binary64.nan) ∧
      ((Value.string source).toNumber = n ↔ ¬ Number.IsWide source.toList) := by
  have writes := (Expr.writes_of_scan scanned single).writesNumber rfl
  show (Number.IsWide source.toList → Number.ofText source = Binary64.nan) ∧
    (Number.ofText source = n ↔ ¬ Number.IsWide source.toList)
  rw [← solid]
  generalize text : trim source.toList = written at writes
  cases writes with
  | decimal literal =>
      have narrow := Number.not_isWide_of_writesLiteral literal
      rw [Number.ofText_of_writesLiteral literal text]
      exact ⟨fun wide => absurd wide narrow, fun _ => narrow, fun _ => rfl⟩
  | @hex mark digits isMark nonempty all _ =>
      rw [Number.ofText_of_hex isMark nonempty all text, Number.isWide_cons_iff isMark]
      split_ifs with small
      · have narrow := Nat.not_le_of_lt small
        exact ⟨fun wide => absurd wide narrow, fun _ => narrow, fun _ => rfl⟩
      · refine ⟨fun _ => rfl, fun same => ?_, fun narrow => absurd (Nat.lt_of_not_le narrow) small⟩
        have rounded := Binary64.isNaN_round false (ofDigits 16 digits) 1
        rw [← Binary64.ofNat, ← same] at rounded
        cases rounded

/-- A point in front and an exponent. -/
theorem Value.toNumber_of_scan_exponent :
    trim ".5e1".toList = ".5e1".toList ∧
      Expr.scan ".5e1" = .ok [⟨0, .number (Binary64.ofNat 5)⟩, ⟨4, .stop⟩] ∧
      (Value.string ".5e1").toNumber = Binary64.ofNat 5 := by
  have solid : trim ".5e1".toList = ".5e1".toList := by decide
  have scanned : Expr.scan ".5e1" = .ok [⟨0, .number (Binary64.ofNat 5)⟩, ⟨4, .stop⟩] := by
    decide +kernel
  have narrow : ¬ Number.IsWide ".5e1".toList := by
    rintro ⟨digits, marked, -⟩
    cases marked
  exact ⟨solid, scanned, (toNumber_of_scan solid scanned rfl).2.mpr narrow⟩

/-- The literal of the smallest word of 64 bits is a number, but its text converts to none. -/
theorem Value.toNumber_wide_hex :
    trim "0x8000000000000000".toList = "0x8000000000000000".toList ∧
      Expr.scan "0x8000000000000000" =
        .ok [⟨0, .number (Binary64.ofNat 9223372036854775808)⟩, ⟨18, .stop⟩] ∧
      (Value.string "0x8000000000000000").toNumber ≠ Binary64.ofNat 9223372036854775808 := by
  refine ⟨by decide, by decide +kernel, ?_⟩
  have converted : (Value.string "0x8000000000000000").toNumber = Binary64.nan := rfl
  rw [converted]
  decide +kernel

end Stencil
