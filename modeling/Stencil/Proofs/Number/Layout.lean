import Stencil.Number.Layout
import Stencil.Proofs.Number.Shortest

/-!
# Written decimals

Every layout spells a decimal by digits in front of a point, digits behind it and an exponent, some
of which may be missing, and the spelling stands for the decimal.
-/

namespace Stencil

open Number (ofDigitList)

/-- The parts of a written decimal: digits in front of the point, digits behind it, and the number
behind the mark of an exponent. -/
structure Spelling where
  whole : List ℕ
  fraction : List ℕ
  exponent : Option ℤ

namespace Spelling

/-- The written form of an exponent. -/
def exponentText : Option ℤ → List Char
  | none => []
  | some e => 'e' :: (if e < 0 then '-' else '+') :: Number.natText 10 e.natAbs

/-- The written form of the digits behind a point.  Without such digits there is no point. -/
def fractionText (fraction : List ℕ) : List Char :=
  if fraction.isEmpty then [] else '.' :: Decimal.text fraction

/-- The written form. -/
def text (s : Spelling) : List Char :=
  Decimal.text s.whole ++ (fractionText s.fraction ++ exponentText s.exponent)

/-- The number that a spelling stands for. -/
def value (s : Spelling) : ℚ :=
  ofDigitList (s.whole ++ s.fraction) * 10 ^ (s.exponent.getD 0 - s.fraction.length)

/-- A spelling that begins with a zero only if this is all that stands in front of the point. -/
structure IsProper (s : Spelling) : Prop where
  small : ∀ digit ∈ s.whole ++ s.fraction, digit < 10
  leading : s.whole = [0] ∨ ∃ first rest, s.whole = first :: rest ∧ first ≠ 0

theorem exists_text_eq_cons {s : Spelling} (proper : s.IsProper) :
    ∃ c more, s.text = c :: more ∧ Text.isDigit c = true := by
  have all := Number.all_isDigit_map_digitChar
    fun digit mem => proper.small digit (List.mem_append_left _ mem)
  rw [text]
  rcases proper.leading with zero | ⟨first, rest, split, -⟩
  · rw [zero] at all ⊢
    exact ⟨_, _, rfl, all _ List.mem_cons_self⟩
  · rw [split] at all ⊢
    exact ⟨_, _, rfl, all _ List.mem_cons_self⟩

end Spelling

/-! ## Layouts -/

namespace Decimal

variable {d : Decimal}

theorem text_append (first second : List ℕ) : text (first ++ second) = text first ++ text second :=
  List.map_append

theorem text_replicate_zero (count : ℕ) :
    text (List.replicate count 0) = List.replicate count '0' :=
  List.map_replicate

/-- A spelling of a decimal. -/
structure Spells (s : Spelling) (d : Decimal) (written : List Char) : Prop where
  proper : s.IsProper
  text_eq : written = s.text
  value_eq : s.value = d.value
  exponent : s.exponent = none ∨ s.exponent = some d.exponent

/-- Zeros behind digits move the point. -/
theorem ofDigitList_append_zeros (digits : List ℕ) (zeros : ℕ) (e : ℤ) :
    (ofDigitList (digits ++ List.replicate zeros 0) : ℚ) * 10 ^ e =
      ofDigitList digits * 10 ^ (zeros + e) := by
  rw [Number.ofDigitList_append, Number.ofDigitList_replicate_zero, List.length_replicate,
    Nat.add_zero, zpow_add₀ (by norm_num), zpow_natCast]
  push_cast
  ring

theorem ofDigitList_zeros_append (zeros : ℕ) (digits : List ℕ) :
    ofDigitList (List.replicate zeros 0 ++ digits) = ofDigitList digits := by
  rw [Number.ofDigitList_append, Number.ofDigitList_replicate_zero, Nat.zero_mul, Nat.zero_add]

/-- Below one, all digits stand behind the point. -/
theorem spells_positional_of_neg (proper : d.IsProper) (negative : d.exponent < 0)
    (mark : List Char) :
    Spells ⟨[0], List.replicate (-d.exponent - 1).toNat 0 ++ d.digits, none⟩ d
      (d.positional mark) := by
  rcases proper.leading with ⟨first, rest, digits_eq, -⟩
  have nonempty : d.digits ≠ [] := digits_eq ▸ List.cons_ne_nil first rest
  rw [positional, if_pos negative]
  generalize zeros_eq : (-d.exponent - 1).toNat = zeros
  refine ⟨⟨?_, .inl rfl⟩, ?_, ?_, .inl rfl⟩
  · intro digit mem
    simp only [List.mem_append, List.mem_singleton, List.mem_replicate] at mem
    rcases mem with rfl | ⟨-, rfl⟩ | mem
    · omega
    · omega
    · exact proper.small digit mem
  · rw [Spelling.text, Spelling.fractionText, if_neg (by simp [nonempty]), text_append,
      text_replicate_zero]
    simp [text, Number.digitChar, Spelling.exponentText]
  · have leadingZero : [0] ++ (List.replicate zeros 0 ++ d.digits) =
        List.replicate (zeros + 1) 0 ++ d.digits := by
      simp [List.replicate_succ]
    rw [Spelling.value, value, leadingZero, ofDigitList_zeros_append, Option.getD_none,
      List.length_append, List.length_replicate]
    congr 2
    omega

/-- If the digits end in front of the point, zeros stand for those that are missing.  Zeros may
stand behind the point. -/
theorem spells_positional_of_short (proper : d.IsProper) (nonneg : ¬ d.exponent < 0)
    (short : d.digits.length ≤ d.exponent.toNat + 1) (count : ℕ) :
    Spells ⟨d.digits ++ List.replicate (d.exponent.toNat + 1 - d.digits.length) 0,
        List.replicate count 0, none⟩ d
      (d.positional (Spelling.fractionText (List.replicate count 0))) := by
  rcases proper.leading with ⟨first, rest, digits_eq, notZero⟩
  rw [positional, if_neg nonneg]
  simp only [if_pos short]
  generalize zeros_eq : d.exponent.toNat + 1 - d.digits.length = zeros
  refine ⟨⟨?_, .inr ?_⟩, ?_, ?_, .inl rfl⟩
  · intro digit mem
    simp only [List.mem_append, List.mem_replicate] at mem
    rcases mem with (mem | ⟨-, rfl⟩) | ⟨-, rfl⟩
    · exact proper.small digit mem
    · omega
    · omega
  · exact ⟨first, rest ++ List.replicate zeros 0, by rw [digits_eq, List.cons_append], notZero⟩
  · rw [Spelling.text, text_append, text_replicate_zero, Spelling.exponentText, List.append_nil]
  · rw [Spelling.value, List.append_assoc, List.replicate_append_replicate,
      ofDigitList_append_zeros, value]
    congr 2
    simp only [Option.getD_none, List.length_replicate]
    omega

/-- Otherwise the point stands between the digits. -/
theorem spells_positional_of_long (proper : d.IsProper) (nonneg : ¬ d.exponent < 0)
    (long : ¬ d.digits.length ≤ d.exponent.toNat + 1) (mark : List Char) :
    Spells ⟨d.digits.take (d.exponent.toNat + 1), d.digits.drop (d.exponent.toNat + 1), none⟩ d
      (d.positional mark) := by
  rcases proper.leading with ⟨first, rest, digits_eq, notZero⟩
  rw [positional, if_neg nonneg]
  simp only [if_neg long]
  generalize point_eq : d.exponent.toNat + 1 = point at long
  have rejoined : d.digits.take point ++ d.digits.drop point = d.digits :=
    List.take_append_drop point d.digits
  refine ⟨⟨?_, .inr ?_⟩, ?_, ?_, .inl rfl⟩
  · rw [rejoined]
    exact proper.small
  · refine ⟨first, rest.take (point - 1), ?_, notZero⟩
    rw [digits_eq, ← point_eq]
    rfl
  · rw [Spelling.text, Spelling.fractionText, if_neg (by simpa using long)]
    simp [Spelling.exponentText]
  · rw [Spelling.value, value, rejoined]
    congr 2
    simp only [Option.getD_none, List.length_drop]
    omega

theorem exists_spells_positional (proper : d.IsProper) {mark : List Char}
    (marked : mark = [] ∨ mark = ['.', '0']) : ∃ s, Spells s d (d.positional mark) := by
  have zeros : ∃ count, mark = Spelling.fractionText (List.replicate count 0) := by
    rcases marked with rfl | rfl
    · exact ⟨0, rfl⟩
    · exact ⟨1, rfl⟩
  rcases zeros with ⟨count, rfl⟩
  by_cases negative : d.exponent < 0
  · exact ⟨_, spells_positional_of_neg proper negative _⟩
  · by_cases short : d.digits.length ≤ d.exponent.toNat + 1
    · exact ⟨_, spells_positional_of_short proper negative short count⟩
    · exact ⟨_, spells_positional_of_long proper negative short _⟩

/-- In exponent form, the point stands behind the first digit. -/
theorem spells_scientific (proper : d.IsProper) :
    Spells ⟨d.digits.take 1, d.digits.drop 1, some d.exponent⟩ d d.scientific := by
  rcases proper.leading with ⟨first, rest, digits_eq, notZero⟩
  have rejoined : d.digits.take 1 ++ d.digits.drop 1 = d.digits := List.take_append_drop 1 d.digits
  refine ⟨⟨?_, .inr ⟨first, [], ?_, notZero⟩⟩, ?_, ?_, .inr rfl⟩
  · rw [rejoined]
    exact proper.small
  · rw [digits_eq]
    rfl
  · rw [scientific, digits_eq, Spelling.text, Spelling.fractionText]
    cases rest <;> simp [text, Spelling.exponentText]
  · rw [Spelling.value, value, rejoined, digits_eq]
    congr 2
    simp only [Option.getD_some, List.drop_one, List.tail_cons, List.length_cons]
    omega

/-- Every layout spells a decimal. -/
theorem exists_spells_write (proper : d.IsProper) {layout : NumberLayout}
    (marked : layout.whole = [] ∨ layout.whole = ['.', '0']) :
    ∃ s, Spells s d (layout.write d) := by
  rw [NumberLayout.write]
  split
  · exact exists_spells_positional proper marked
  · exact ⟨_, spells_scientific proper⟩

end Decimal

end Stencil
