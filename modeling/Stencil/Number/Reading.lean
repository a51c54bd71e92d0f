import Stencil.Number.Layout
import Stencil.Text.Space

/-!
# Reading numbers

One reader of decimal literals serves the expression scanner, the conversion of strings to
numbers, and the function that reads a number from the front of a text.
-/

namespace Stencil.Number

open Text

/-- An unsigned decimal literal: the value is `digits * 10 ^ exponent`. -/
structure Literal where
  digits : Nat
  exponent : Int
  deriving DecidableEq

/-- The nearest double-precision number, with a sign. -/
def Literal.value (l : Literal) (negative : Bool) : Binary64 :=
  Binary64.ofDecimal negative l.digits l.exponent

/-- A minus or plus sign, and what follows it. -/
def readSign : List Char → Bool × List Char
  | '-' :: rest => (true, rest)
  | '+' :: rest => (false, rest)
  | s => (false, s)

/-- The exponent part of a literal, if one is complete; otherwise nothing is consumed. -/
def readExponent (s : List Char) : Int × List Char :=
  match s with
  | c :: rest =>
      if c = 'e' || c = 'E' then
        let (negative, unsigned) := readSign rest
        let digits := unsigned.takeWhile isDigit
        if digits.isEmpty then (0, s)
        else
          let size : Int := ofDigits 10 digits
          (if negative then -size else size, unsigned.dropWhile isDigit)
      else (0, s)
  | [] => (0, s)

/-- The digits after a point at the front of a text, if there is one, and what follows them. -/
def readFraction : List Char → List Char × List Char
  | '.' :: rest => (rest.takeWhile isDigit, rest.dropWhile isDigit)
  | s => ([], s)

/-- The longest unsigned decimal literal at the front of a text: digits with an optional point,
at least one digit, and an optional exponent. -/
def readLiteral (s : List Char) : Option (Literal × List Char) :=
  let whole := s.takeWhile isDigit
  let (fraction, rest) := readFraction (s.dropWhile isDigit)
  if whole.isEmpty && fraction.isEmpty then none
  else
    let (exponent, rest) := readExponent rest
    some (⟨ofDigits 10 (whole ++ fraction), exponent - fraction.length⟩, rest)

theorem length_readSign_le (s : List Char) : (readSign s).2.length ≤ s.length := by
  unfold readSign
  split <;> simp

theorem length_readExponent_le (s : List Char) : (readExponent s).2.length ≤ s.length := by
  unfold readExponent
  split
  · rename_i c rest
    split
    · have sign := length_readSign_le rest
      have dropped := (List.dropWhile_sublist isDigit (l := (readSign rest).2)).length_le
      simp only
      split
      · exact Nat.le_refl _
      · simp only [List.length_cons]
        omega
    · exact Nat.le_refl _
  · exact Nat.le_refl _

theorem length_readFraction_le (s : List Char) :
    (readFraction s).1.length + (readFraction s).2.length ≤ s.length := by
  unfold readFraction
  split
  · rename_i rest
    have split := congrArg List.length (List.takeWhile_append_dropWhile (p := isDigit) (l := rest))
    simp only [List.length_append, List.length_cons] at *
    omega
  · simp

theorem length_lt_of_readLiteral {s rest : List Char} {literal : Literal}
    (read : readLiteral s = some (literal, rest)) : rest.length < s.length := by
  have parts := congrArg List.length (List.takeWhile_append_dropWhile (p := isDigit) (l := s))
  have fraction := length_readFraction_le (s.dropWhile isDigit)
  have exponent := length_readExponent_le (readFraction (s.dropWhile isDigit)).2
  rw [List.length_append] at parts
  unfold readLiteral at read
  simp only [Bool.and_eq_true, List.isEmpty_iff] at read
  split at read
  · cases read
  · rename_i someDigit
    simp only [Option.some.injEq, Prod.mk.injEq] at read
    rw [← read.2]
    rw [← List.length_eq_zero_iff, ← List.length_eq_zero_iff] at someDigit
    omega

/-- A text that is a decimal literal with an optional sign and nothing else. -/
def readDecimal? (s : List Char) : Option Binary64 :=
  let (negative, unsigned) := readSign s
  match readLiteral unsigned with
  | some (literal, []) => some (literal.value negative)
  | _ => none

/-- Hexadecimal digits with an optional sign, as a signed 64-bit word. -/
def readHexWord? (s : List Char) : Option Int :=
  let (negative, digits) := readSign s
  if digits.isEmpty || !digits.all isHexDigit then none
  else
    let size := ofDigits 16 digits
    if negative then (if size ≤ Nat.pow 2 63 then some (-(size : Int)) else none)
    else if size < Nat.pow 2 63 then some size else none

/-- The number that a string converts to: blank text is zero, infinity is spelt out,
hexadecimal text follows `0x`, and anything else must be a decimal literal. -/
def ofText (s : String) : Binary64 :=
  let text := trim s.toList
  match text with
  | [] => Binary64.zero
  | '0' :: x :: hex =>
      if x = 'x' || x = 'X' then
        match readHexWord? hex with
        | some n => Binary64.ofInt n
        | none => Binary64.nan
      else (readDecimal? text).getD Binary64.nan
  | _ =>
      if text = "Infinity".toList || text = "+Infinity".toList then Binary64.infinity false
      else if text = "-Infinity".toList then Binary64.infinity true
      else (readDecimal? text).getD Binary64.nan

/-- The text after an optional `0x`. -/
def afterHexMark? : List Char → Option (List Char)
  | '0' :: 'x' :: rest => some rest
  | '0' :: 'X' :: rest => some rest
  | _ => none

/-- A position written in decimal digits, with an optional plus sign. -/
def readPosition? (s : String) : Option Nat :=
  let digits := match s.toList with
    | '+' :: rest => rest
    | all => all
  if digits.isEmpty || !digits.all isDigit then none else some (ofDigits 10 digits)

end Stencil.Number
