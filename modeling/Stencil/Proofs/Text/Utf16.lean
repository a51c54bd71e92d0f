import Stencil.Proofs.Text.Utf8
import Stencil.Text.Utf16

/-!
# Units of texts

No character's code lies among the surrogates, so the units of a character are read back as that
character whatever follows them.
-/

namespace Stencil.Text

/-- The units of a character are its code, which is no surrogate, or a pair of surrogates that
adds up to its code. -/
theorem utf16Units_cases (c : Char) :
    (isHighSurrogate c.toNat = false ∧ c.toNat < 0x10000 ∧ utf16Units c = [c.toNat]) ∨
    ∃ high low, isHighSurrogate high = true ∧ isLowSurrogate low = true ∧
      0x10000 + (high - 0xD800) * 0x400 + (low - 0xDC00) = c.toNat ∧
      utf16Units c = [high, low] := by
  have valid := isValidChar_toNat c
  simp only [Nat.isValidChar] at valid
  by_cases short : c.toNat < 0x10000
  · refine .inl ⟨?_, short, by simp [utf16Units, short]⟩
    simp only [isHighSurrogate, Bool.and_eq_false_iff, decide_eq_false_iff_not]
    omega
  · refine .inr ⟨_, _, ?_, ?_, ?_, by rw [utf16Units, if_neg short]⟩
    · simp only [isHighSurrogate, Bool.and_eq_true, decide_eq_true_eq]
      omega
    · simp only [isLowSurrogate, Bool.and_eq_true, decide_eq_true_eq]
      omega
    · omega

/-- Every unit takes sixteen bits. -/
theorem lt_of_mem_utf16Units {c : Char} {unit : Nat} (mem : unit ∈ utf16Units c) :
    unit < 0x10000 := by
  rcases utf16Units_cases c with ⟨-, short, units_eq⟩ | ⟨high, low, isHigh, isLow, -, units_eq⟩
  · rw [units_eq, List.mem_singleton] at mem
    omega
  · simp only [isHighSurrogate, isLowSurrogate, Bool.and_eq_true, decide_eq_true_eq]
      at isHigh isLow
    rw [units_eq] at mem
    simp only [List.mem_cons, List.not_mem_nil, or_false] at mem
    omega

/-- The units of a character in front are read as that character. -/
theorem ofUtf16_utf16Units_append (c : Char) (units : List Nat) :
    ofUtf16 (utf16Units c ++ units) = c :: ofUtf16 units := by
  rcases utf16Units_cases c with ⟨isHigh, -, units_eq⟩ | ⟨high, low, isHigh, isLow, code, units_eq⟩
  · rw [units_eq]
    cases units <;> simp [ofUtf16, isHigh, charOfCode?_toNat]
  · rw [units_eq]
    simp [ofUtf16, isHigh, isLow, code, charOfCode?_toNat]

/-- The units of a text are read back as the text. -/
theorem ofUtf16_flatMap_utf16Units (s : List Char) : ofUtf16 (s.flatMap utf16Units) = s := by
  induction s with
  | nil => rfl
  | cons c s ih => rw [List.flatMap_cons, ofUtf16_utf16Units_append, ih]

end Stencil.Text
