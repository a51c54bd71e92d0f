import Stencil.Number.Binary64

/-!
# Arithmetic on double-precision numbers

The four operations and the remainder compute the exact result of two finite numbers and round
it once.  Rounding to an integer is exact.
-/

namespace Stencil.Binary64

/-! ## Sums -/

/-- Magnitude `m * 2 ^ e` rounded, with the sign of `m`; an exact zero takes `zeroSign`. -/
def ofScaled (zeroSign : Bool) (m : Int) (e : Int) : Binary64 :=
  if m = 0 then signedZero zeroSign
  else if 0 ≤ e then round (m < 0) (m.natAbs * Nat.pow 2 e.toNat) 1
  else round (m < 0) m.natAbs (Nat.pow 2 (-e).toNat)

/-- The significand of `x`, with its sign, on the grid `2 ^ e` for `e` at most the scale. -/
def onGrid (x : Binary64) (e : Int) : Int :=
  x.signedSignificand * (Nat.pow 2 (x.scale - e).toNat : Nat)

/-- Sum.  Opposite numbers add to the positive zero. -/
def add (x y : Binary64) : Binary64 :=
  if x.isNaN || y.isNaN then nan
  else if x.isInfinite then (if y.isInfinite && x.negative != y.negative then nan else x)
  else if y.isInfinite then y
  else
    let e := min x.scale y.scale
    ofScaled (x.negative && y.negative) (x.onGrid e + y.onGrid e) e

/-- Difference. -/
def sub (x y : Binary64) : Binary64 :=
  x.add y.neg

/-! ## Products and quotients -/

/-- Product. -/
def mul (x y : Binary64) : Binary64 :=
  let negative := x.negative != y.negative
  if x.isNaN || y.isNaN then nan
  else if x.isInfinite || y.isInfinite then
    (if x.isZero || y.isZero then nan else infinity negative)
  else ofScaled negative (x.signedSignificand * y.signedSignificand) (x.scale + y.scale)

/-- Quotient; dividing by a zero gives an infinity, except for zero by zero. -/
def div (x y : Binary64) : Binary64 :=
  let negative := x.negative != y.negative
  if x.isNaN || y.isNaN then nan
  else if x.isInfinite then (if y.isInfinite then nan else infinity negative)
  else if y.isInfinite then signedZero negative
  else if y.isZero then (if x.isZero then nan else infinity negative)
  else
    let (xn, xd) := x.ratio
    let (yn, yd) := y.ratio
    round negative (xn * yd) (xd * yn)

/-- Remainder of truncated division, exact, with the sign of the dividend. -/
def rem (x y : Binary64) : Binary64 :=
  if x.isNaN || y.isNaN || x.isInfinite || y.isZero then nan
  else if y.isInfinite then x
  else
    let e := min x.scale y.scale
    ofScaled x.negative ((x.onGrid e).tmod (y.onGrid e)) e

/-! ## Integers -/

/-- The integer part of a finite number: `floor (|x|)` with the number's sign. -/
def toInt (x : Binary64) : Int :=
  let (num, den) := x.ratio
  if x.negative then -((num / den : Nat) : Int) else ((num / den : Nat) : Int)

/-- A finite number without a fraction part. -/
def isInteger (x : Binary64) : Bool :=
  x.isFinite && x.ratio.1 % x.ratio.2 == 0

/-- The integer `n` as a number, a zero taking the sign of `x`. -/
def withSignOf (x : Binary64) (n : Int) : Binary64 :=
  if n = 0 then signedZero x.negative else ofInt n

/-- Rounding toward zero. -/
def trunc (x : Binary64) : Binary64 :=
  if x.isFinite then x.withSignOf x.toInt else x

/-- Rounding down. -/
def floor (x : Binary64) : Binary64 :=
  if x.isFinite then
    x.withSignOf (if x.negative && !x.isInteger then x.toInt - 1 else x.toInt)
  else x

/-- Rounding up. -/
def ceil (x : Binary64) : Binary64 :=
  if x.isFinite then
    x.withSignOf (if x.negative || x.isInteger then x.toInt else x.toInt + 1)
  else x

/-- Rounding to the nearest integer, a half going up. -/
def roundHalfUp (x : Binary64) : Binary64 :=
  let below := x.floor
  if le (div (ofNat 1) (ofNat 2)) (x.sub below) then below.add (ofNat 1) else below

/-- `1`, `-1`, or the number itself for zeros and NaNs. -/
def sign (x : Binary64) : Binary64 :=
  if x.isNaN || x.isZero then x
  else if x.negative then ofInt (-1) else ofNat 1

/-- The larger of two numbers that are not NaNs, the first one if they compare equal. -/
protected def max (x y : Binary64) : Binary64 :=
  if x.lt y then y else x

/-- The smaller of two numbers that are not NaNs, the first one if they compare equal. -/
protected def min (x y : Binary64) : Binary64 :=
  if y.lt x then y else x

end Stencil.Binary64
