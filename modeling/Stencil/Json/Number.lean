import Stencil.Number.Arithmetic
import Stencil.Text.CharClass

/-!
# Numbers of JSON texts

A text tells a number by a sign, digits and an exponent.  The number is made in two steps that both
round: the digits are collected in a word of 64 bits, and the number nearest to this is multiplied
or divided by a power of ten.  What comes out need not be the number nearest to the text.
-/

namespace Stencil.Json

open Text

/-- A number as a text tells it, by the digits in front of the point and behind it and by its
exponent, if it has one. -/
structure Numeral where
  negative : Bool
  whole : List Char
  fraction : List Char
  exponent : Option Int

/-- Appends digits to a significand while it stays a word of 64 bits.  The digits from the first one
that does not fit are left. -/
def collect (significand : Nat) : List Char → Nat × List Char
  | [] => (significand, [])
  | c :: rest =>
      let next := significand * 10 + (digitValue? c).getD 0
      if next < Nat.pow 2 64 then collect next rest else (significand, c :: rest)

/-- The largest exponent of ten whose power is finite. -/
def largestPower : Nat :=
  308

/-- The number nearest to a power of ten. -/
def powerOfTen (exponent : Nat) : Binary64 :=
  .ofNat (Nat.pow 10 exponent)

/-- A number times a power of ten, unless that is too large. -/
def scaleUp? (n : Binary64) (exponent : Nat) : Option Binary64 :=
  if exponent ≤ largestPower then
    let product := n.mul (powerOfTen exponent)
    if product.isInfinite then none else some product
  else if n.isZero then some n
  else none

/-- A number divided by a power of ten, in several steps if the power is not finite. -/
def scaleDown (n : Binary64) (exponent : Nat) : Binary64 :=
  if exponent ≤ largestPower then n.div (powerOfTen exponent)
  else if n.isZero then n
  else scaleDown (n.div (powerOfTen largestPower)) (exponent - largestPower)
termination_by exponent
decreasing_by
  simp only [largestPower] at *
  omega

/-- The number nearest to a significand, scaled by a power of ten. -/
def scaled? (significand : Nat) (exponent : Int) : Option Binary64 :=
  if 0 ≤ exponent then scaleUp? (.ofNat significand) exponent.toNat
  else some (scaleDown (.ofNat significand) (-exponent).toNat)

namespace Numeral

/-- The number without its sign.  Integers that fit a word are not scaled.  Digits that were left
in front of the point raise the exponent, and those that were left behind it count for nothing. -/
def magnitude? (numeral : Numeral) : Option Binary64 :=
  let (front, beyond) := collect 0 numeral.whole
  let (significand, ignored) := collect front numeral.fraction
  if beyond.isEmpty && numeral.fraction.isEmpty && numeral.exponent.isNone then
    some (.ofNat significand)
  else
    scaled? significand
      (numeral.exponent.getD 0 + beyond.length - (numeral.fraction.length - ignored.length : Nat))

/-- The number that is made of a text, unless it is too large. -/
def value? (numeral : Numeral) : Option Binary64 :=
  numeral.magnitude?.map fun n => if numeral.negative then n.neg else n

end Numeral

end Stencil.Json
