import Mathlib.Data.List.Basic
import Stencil.Number.Reading

/-!
# Texts that are no numbers

A text is read as a number from its first character on: behind white space it begins with a digit,
a point, a sign or the first letter of the name of infinity.
-/

namespace Stencil

open Text

theorem Text.trimStart_cons {c : Char} (notSpace : isSpace c = false) (s : List Char) :
    trimStart (c :: s) = c :: s := by
  simp [trimStart, notSpace]

/-- Trimming keeps a first character that is no white space. -/
theorem Text.exists_trim_cons {c : Char} (notSpace : isSpace c = false) (s : List Char) :
    ∃ rest, trim (c :: s) = c :: rest := by
  rw [trim, trimStart_cons notSpace, trimEnd, List.reverse_cons, List.dropWhile_append]
  split
  · exact ⟨[], by simp [notSpace]⟩
  · exact ⟨(s.reverse.dropWhile isSpace).reverse, by simp⟩

namespace Number

/-- Characters with which no number begins. -/
structure NoFront (c : Char) : Prop where
  notSpace : isSpace c = false
  notDigit : isDigit c = false
  notMark : c ∉ ['.', '-', '+', 'I']

variable {c : Char}

theorem readDecimal?_of_noFront (noFront : NoFront c) (s : List Char) :
    readDecimal? (c :: s) = none := by
  have notMark := noFront.notMark
  simp only [List.mem_cons, List.not_mem_nil, or_false, not_or] at notMark
  rcases notMark with ⟨notPoint, notMinus, notPlus, -⟩
  have sign : readSign (c :: s) = (false, c :: s) := by
    unfold readSign
    split
    all_goals simp_all
  have fraction : readFraction (c :: s) = ([], c :: s) := by
    unfold readFraction
    split
    all_goals simp_all
  have literal : readLiteral (c :: s) = none := by
    unfold readLiteral
    simp [noFront.notDigit, fraction]
  simp [readDecimal?, sign, literal]

/-- A text that begins with no number is not a number. -/
theorem ofText_eq_nan (noFront : NoFront c) {s : String} {rest : List Char}
    (begins : s.toList = c :: rest) : ofText s = Binary64.nan := by
  rcases exists_trim_cons noFront.notSpace rest with ⟨rest', trimmed⟩
  have notMark := noFront.notMark
  simp only [List.mem_cons, List.not_mem_nil, or_false, not_or] at notMark
  rcases notMark with ⟨-, notMinus, notPlus, notLetter⟩
  unfold ofText
  simp only [begins, trimmed]
  split
  · simp_all
  · rename_i same
    rcases List.cons.inj same with ⟨rfl, -⟩
    exact absurd noFront.notDigit (by decide)
  · have plain : c :: rest' ≠ "Infinity".toList := fun same => notLetter (List.cons.inj same).1
    have plus : c :: rest' ≠ "+Infinity".toList := fun same => notPlus (List.cons.inj same).1
    have minus : c :: rest' ≠ "-Infinity".toList := fun same => notMinus (List.cons.inj same).1
    simp only [plain, plus, minus, decide_false, Bool.or_self, Bool.false_eq_true, if_false,
      readDecimal?_of_noFront noFront, Option.getD_none]

end Number

end Stencil
