import Stencil.Number.Arithmetic

/-!
# Elementary functions

Roots are computed exactly and rounded once.  Logarithms and exponentials are computed with 320
fraction bits, far more than a number has, before they are rounded.
-/

namespace Stencil

namespace FixedPoint

/-- The unit: values are counts of `2 ^ -320`. -/
def unit : Nat :=
  Nat.pow 2 320

/-- The sum of `count` terms `power * square ^ k / (odd + 2 * k)`. -/
def oddSeries (square : Nat) : Nat → Nat → Nat → Nat
  | 0, _, _ => 0
  | count + 1, power, odd =>
      power / odd + oddSeries square count (power * square / unit) (odd + 2)

/-- The logarithm of `(1 + z) / (1 - z)` for `z = num / den` up to a third. -/
def logOfRatio (num den : Nat) : Nat :=
  let z := num * unit / den
  2 * oddSeries (z * z / unit) 128 z 1

/-- The logarithm of two. -/
def logTwo : Nat :=
  logOfRatio 1 3

/-- The logarithm of `m * 2 ^ e`.  The significand is moved to between the square roots of a half
and of two. -/
def logScaled (m : Nat) (e : Int) : Int :=
  let bits := m.log2
  let above := if Nat.pow 2 (2 * bits + 1) < m * m then bits + 1 else bits
  let power := Nat.pow 2 above
  let whole := (e + above) * logTwo
  if power ≤ m then whole + logOfRatio (m - power) (m + power)
  else whole - logOfRatio (power - m) (m + power)

/-- The sum of `count` terms of the exponential series from `term`, which is divided by `n` and its
successors. -/
def exponentialSeries (x : Nat) : Nat → Nat → Nat → Nat
  | 0, _, _ => 0
  | count + 1, term, n => term + exponentialSeries x count (term * x / (n * unit)) (n + 1)

/-- The exponential of a fixed-point value: a magnitude at least the unit and below two, and a power
of two. -/
def exponential (x : Int) : Nat × Int :=
  let power := x / logTwo
  (exponentialSeries (x - power * logTwo).toNat 100 unit 1, power)

/-- The largest root at most that of `n`, found bit by bit from `2 ^ bit` down. -/
def floorRoot (degree n : Nat) : Nat → Nat → Nat
  | 0, found => if Nat.pow (found + 1) degree ≤ n then found + 1 else found
  | bit + 1, found =>
      let next := found + Nat.pow 2 (bit + 1)
      floorRoot degree n bit (if Nat.pow next degree ≤ n then next else found)

end FixedPoint

namespace Binary64

open FixedPoint

/-! ## Roots -/

/-- The root of a positive number: one bit more than the integral root tells whether it is exact. -/
def rootOfPositive (degree : Nat) (x : Binary64) : Binary64 :=
  let extra : Nat := 64 * degree + (x.scale % degree).toNat
  let n := x.significand * Nat.pow 2 extra
  let root := floorRoot degree n 128 0
  let sticky : Nat := if Nat.pow root degree = n then 0 else 1
  ofScaled false (2 * root + sticky : Nat) ((x.scale - extra) / degree - 1)

/-- Square root. -/
def sqrt (x : Binary64) : Binary64 :=
  if x.isNaN || x.isZero then x
  else if x.negative then nan
  else if x.isInfinite then x
  else rootOfPositive 2 x

/-- Cube root. -/
def cbrt (x : Binary64) : Binary64 :=
  if !x.isFinite || x.isZero then x
  else if x.negative then (rootOfPositive 3 x.neg).neg
  else rootOfPositive 3 x

/-! ## Logarithms -/

/-- A logarithm from what it is for positive numbers. -/
def logarithm (ofPositive : Int → Binary64) (x : Binary64) : Binary64 :=
  if x.isNaN then nan
  else if x.isZero then infinity true
  else if x.negative then nan
  else if x.isInfinite then x
  else ofPositive (logScaled x.significand x.scale)

/-- Natural logarithm. -/
def log : Binary64 → Binary64 :=
  logarithm fun n => ofScaled false n (-320)

/-- Binary logarithm. -/
def log2 : Binary64 → Binary64 :=
  logarithm fun n => round (n < 0) n.natAbs logTwo

/-- Decimal logarithm. -/
def log10 : Binary64 → Binary64 :=
  logarithm fun n => round (n < 0) n.natAbs (logScaled 10 0).toNat

/-! ## Exponentials -/

/-- The exponential of a fixed-point value.  Far from zero the result is an infinity or zero. -/
def ofLogarithm (x : Int) : Binary64 :=
  if 800 * unit < x then infinity false
  else if x < -800 * unit then zero
  else
    let (magnitude, power) := exponential x
    ofScaled false magnitude (power - 320)

/-- An integer times a power of two, rounded down to an integer. -/
def shifted (n : Int) (e : Int) : Int :=
  if 0 ≤ e then n * Nat.pow 2 e.toNat else n / Nat.pow 2 (-e).toNat

/-- Exponential function. -/
def exp (x : Binary64) : Binary64 :=
  if x.isNaN then nan
  else if x.isInfinite then (if x.negative then zero else x)
  else ofLogarithm (shifted x.signedSignificand (x.scale + 320))

/-- Whether a number is an odd integer. -/
def isOdd (x : Binary64) : Bool :=
  x.isInteger && x.toInt % 2 == 1

/-- The power of a positive number.  Small integral exponents multiply out exactly. -/
def powOfPositive (x y : Binary64) : Binary64 :=
  if y.isInteger && y.toInt.natAbs ≤ 64 then
    let (num, den) := x.ratio
    let n := y.toInt.natAbs
    if y.negative then round false (Nat.pow den n) (Nat.pow num n)
    else round false (Nat.pow num n) (Nat.pow den n)
  else ofLogarithm (shifted (logScaled x.significand x.scale * y.signedSignificand) y.scale)

/-- The power `x ^ y`.  The power to zero and the powers of one are one whatever the other number
is; a negative number has powers to integers only. -/
def pow (x y : Binary64) : Binary64 :=
  let one := ofNat 1
  let negative := x.negative && y.isOdd
  if y.isZero || x = one then one
  else if x.isNaN || y.isNaN then nan
  else if y.isInfinite then
    if x.abs = one then one
    else if x.abs.lt one = y.negative then infinity false
    else zero
  else if x.isZero || x.isInfinite then
    if x.isZero = y.negative then infinity negative else signedZero negative
  else if x.negative && !y.isInteger then nan
  else
    let magnitude := powOfPositive x.abs y
    if negative then magnitude.neg else magnitude

end Binary64

end Stencil
