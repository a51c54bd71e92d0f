import Mathlib.Data.List.TakeWhile
import Stencil.Expr.Name
import Stencil.Text.Space

/-!
# Runs of characters

A run of characters of a class is taken as a whole when what follows does not go on with the class.
White space is no part of any name, so that it ends every run of a name's characters.
-/

namespace Stencil.Text

variable {accepts : Char → Bool} {run rest space s : List Char}

/-- A text that does not begin with a character of a class. -/
def Stops (accepts : Char → Bool) (rest : List Char) : Prop :=
  ∀ c ∈ rest.head?, accepts c = false

theorem stops_nil : Stops accepts [] :=
  nofun

theorem stops_cons {c : Char} (refused : accepts c = false) (more : List Char) :
    Stops accepts (c :: more) := by
  intro d mem
  rw [List.head?_cons, Option.mem_some_iff] at mem
  exact mem ▸ refused

theorem Stops.takeWhile_eq (stops : Stops accepts rest) : rest.takeWhile accepts = [] := by
  cases rest with
  | nil => rfl
  | cons c more => rw [List.takeWhile_cons_of_neg (by simp [stops c rfl])]

theorem Stops.dropWhile_eq (stops : Stops accepts rest) : rest.dropWhile accepts = rest := by
  cases rest with
  | nil => rfl
  | cons c more => rw [List.dropWhile_cons_of_neg (by simp [stops c rfl])]

theorem takeWhile_append_of_stops (all : ∀ c ∈ run, accepts c = true)
    (stops : Stops accepts rest) : (run ++ rest).takeWhile accepts = run := by
  rw [List.takeWhile_append_of_pos all, stops.takeWhile_eq, List.append_nil]

theorem dropWhile_append_of_stops (all : ∀ c ∈ run, accepts c = true)
    (stops : Stops accepts rest) : (run ++ rest).dropWhile accepts = rest := by
  rw [List.dropWhile_append_of_pos all, stops.dropWhile_eq]

/-! ## White space -/

/-- A text of white space. -/
def Blank (space : List Char) : Prop :=
  ∀ c ∈ space, isSpace c = true

instance (space : List Char) : Decidable (Blank space) :=
  decidable_of_iff (space.all isSpace = true) List.all_eq_true

theorem blank_nil : Blank [] :=
  nofun

theorem blank_takeWhile (s : List Char) : Blank (s.takeWhile isSpace) :=
  fun _ mem => List.mem_takeWhile_imp mem

theorem trimStart_append (blank : Blank space) (stops : Stops isSpace rest) :
    trimStart (space ++ rest) = rest :=
  dropWhile_append_of_stops blank stops

theorem trimStart_eq_nil_iff : trimStart s = [] ↔ Blank s := by
  constructor
  · intro trimmed
    have split := trimStart_append_leading s
    rw [trimmed, List.append_nil] at split
    exact split ▸ blank_takeWhile s
  · intro blank
    simpa using trimStart_append blank stops_nil

theorem leadingSpaces_append (blank : Blank space) (stops : Stops isSpace rest) :
    leadingSpaces (space ++ rest) = space.length := by
  rw [leadingSpaces, takeWhile_append_of_stops blank stops]

/-- White space behind a text that does not end with it is what trimming removes. -/
theorem trimEnd_append (blank : Blank space) (solid : ∀ c ∈ s.getLast?, isSpace c = false) :
    trimEnd (s ++ space) = s := by
  have behind : Stops isSpace s.reverse := by
    rwa [Stops, List.head?_reverse]
  have reversed : Blank space.reverse := fun c mem => blank c (List.mem_reverse.mp mem)
  rw [trimEnd, List.reverse_append, dropWhile_append_of_stops reversed behind, List.reverse_reverse]

/-- Trimming keeps a text that neither begins nor ends with white space. -/
theorem trim_eq_self_of_ends (front : Stops isSpace s)
    (back : ∀ c ∈ s.getLast?, isSpace c = false) :
    trim s = s := by
  have first := trimStart_append blank_nil front
  have last := trimEnd_append blank_nil back
  rw [List.nil_append] at first
  rw [List.append_nil] at last
  rw [trim, first, last]

theorem not_isSpace_of_isDigit {c : Char} (digit : isDigit c = true) : isSpace c = false := by
  simp only [isDigit, Bool.and_eq_true, decide_eq_true_eq] at digit
  simp only [isSpace, Bool.or_eq_false_iff, Bool.and_eq_false_iff, decide_eq_false_iff_not,
    beq_eq_false_iff_ne]
  omega

/-- The code points of white space, as inclusive ranges. -/
def spaceRanges : List (Nat × Nat) :=
  [(9, 13), (0x20, 0x20), (0x85, 0x85), (0xA0, 0xA0), (0x1680, 0x1680), (0x2000, 0x200A),
    (0x2028, 0x2029), (0x202F, 0x202F), (0x205F, 0x205F), (0x3000, 0x3000)]

theorem exists_spaceRange {c : Char} (space : isSpace c = true) :
    ∃ blank ∈ spaceRanges, blank.1 ≤ c.toNat ∧ c.toNat ≤ blank.2 := by
  simp only [isSpace, Bool.or_eq_true, Bool.and_eq_true, decide_eq_true_eq, beq_iff_eq] at space
  simp only [spaceRanges, List.mem_cons, List.not_mem_nil, or_false, exists_eq_or_imp,
    exists_eq_left]
  omega

/-- A table without a range that meets white space. -/
def clearOfSpace (table : List (Nat × Nat)) : Bool :=
  table.all fun range => spaceRanges.all fun blank => range.2 < blank.1 || blank.2 < range.1

theorem inRanges_eq_false {table : List (Nat × Nat)} (clear : clearOfSpace table = true) {c : Char}
    (space : isSpace c = true) : inRanges table c.toNat = false := by
  rcases exists_spaceRange space with ⟨blank, isBlank, low, high⟩
  apply Bool.eq_false_iff.mpr
  intro inside
  rcases List.any_eq_true.mp inside with ⟨range, mem, within⟩
  have apart := List.all_eq_true.mp (List.all_eq_true.mp clear range mem) blank isBlank
  simp only [Bool.and_eq_true, Bool.or_eq_true, decide_eq_true_eq] at within apart
  omega

theorem clearOfSpace_alphabetic : clearOfSpace Tables.alphabetic = true := by
  decide +kernel

theorem clearOfSpace_numeric : clearOfSpace Tables.numeric = true := by
  decide +kernel

/-- White space is neither a letter nor a number. -/
theorem not_isAlphanumeric_of_isSpace {c : Char} (space : isSpace c = true) :
    isAlphanumeric c = false := by
  have noLetter := inRanges_eq_false clearOfSpace_alphabetic space
  have noNumber := inRanges_eq_false clearOfSpace_numeric space
  have small : isAsciiLetter c = false ∧ isDigit c = false := by
    simp only [isSpace, Bool.or_eq_true, Bool.and_eq_true, decide_eq_true_eq, beq_iff_eq] at space
    simp only [isAsciiLetter, isDigit, Bool.or_eq_false_iff, Bool.and_eq_false_iff,
      decide_eq_false_iff_not]
    omega
  simp [isAlphanumeric, isAlphabetic, isNumeric, noLetter, noNumber, small]

end Stencil.Text

namespace Stencil.Name

open Text

theorem not_isContinue_of_isSpace {c : Char} (space : isSpace c = true) : isContinue c = false := by
  have noMark : c ≠ '_' ∧ c ≠ '$' := by
    constructor <;> (rintro rfl; exact absurd space (by decide))
  simp [isContinue, not_isAlphanumeric_of_isSpace space, noMark]

theorem not_isStart_of_not_isContinue {c : Char} (refused : isContinue c = false) :
    isStart c = false :=
  Bool.eq_false_iff.mpr (mt isContinue_of_isStart (Bool.eq_false_iff.mp refused))

theorem isContinue_of_isDigit {c : Char} (digit : isDigit c = true) : isContinue c = true := by
  have ascii : c.toNat < 128 := by
    simp only [isDigit, Bool.and_eq_true, decide_eq_true_eq] at digit
    omega
  simp [isContinue, isAlphanumeric, isNumeric, ascii, digit]

theorem not_isDigit_of_not_isContinue {c : Char} (refused : isContinue c = false) :
    isDigit c = false :=
  Bool.eq_false_iff.mpr (mt isContinue_of_isDigit (Bool.eq_false_iff.mp refused))

end Stencil.Name
