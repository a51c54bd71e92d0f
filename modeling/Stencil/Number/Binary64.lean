/-!
# Double-precision numbers

A number of the expression language is a value of the IEEE binary64 format.  Here it is the
triple of its fields, so that every inhabitant is a number of the format and every operation
is a computation on `Nat` and `Int`: a finite number is `significand * 2 ^ scale`, an operation
computes the exact result and `round` picks the nearest number of the format, ties to even.

`order` is the line on which IEEE comparison happens: it puts both zeros at the same place and
is strictly monotone on everything else, so the laws of `beq` and `lt` are laws of `Int`.
-/

namespace Stencil

/-- The three fields of a binary64 number. -/
structure Binary64 where
  negative : Bool
  exponent : Fin 2048
  fraction : Fin 4503599627370496
  deriving DecidableEq

namespace Binary64

/-! ## Special numbers -/

/-- The zero of the given sign. -/
def signedZero (negative : Bool) : Binary64 :=
  ⟨negative, 0, 0⟩

/-- The positive zero. -/
def zero : Binary64 :=
  signedZero false

/-- The infinity of the given sign. -/
def infinity (negative : Bool) : Binary64 :=
  ⟨negative, 2047, 0⟩

/-- The quiet NaN that operations return. -/
def nan : Binary64 :=
  ⟨false, 2047, 2251799813685248⟩

instance : Inhabited Binary64 :=
  ⟨zero⟩

/-- The largest exponent field is that of the infinities and NaNs; every other one is finite. -/
def isFinite (x : Binary64) : Bool :=
  x.exponent != 2047

/-- A NaN has the largest exponent field and a fraction. -/
def isNaN (x : Binary64) : Bool :=
  x.exponent == 2047 && x.fraction != 0

/-- An infinity has the largest exponent field and no fraction. -/
def isInfinite (x : Binary64) : Bool :=
  x.exponent == 2047 && x.fraction == 0

/-- Both zeros. -/
def isZero (x : Binary64) : Bool :=
  x.exponent == 0 && x.fraction == 0

/-! ## The exact value of a finite number -/

/-- The integer significand: normal numbers have a hidden leading bit. -/
def significand (x : Binary64) : Nat :=
  if x.exponent = 0 then x.fraction.val else Nat.pow 2 52 + x.fraction.val

/-- The power of two that scales the significand. -/
def scale (x : Binary64) : Int :=
  if x.exponent = 0 then -1074 else (x.exponent.val : Int) - 1075

/-- The significand with the number's sign. -/
def signedSignificand (x : Binary64) : Int :=
  if x.negative then -(x.significand : Int) else (x.significand : Int)

/-- The magnitude as a fraction of naturals, numerator first. -/
def ratio (x : Binary64) : Nat × Nat :=
  if 0 ≤ x.scale then (x.significand * Nat.pow 2 x.scale.toNat, 1)
  else (x.significand, Nat.pow 2 (-x.scale).toNat)

/-! ## Rounding -/

/-- Nearest integer to `num / den`, a tie going to the even neighbour. -/
def divideToEven (num den : Nat) : Nat :=
  let quotient := num / den
  let rest := num % den
  if 2 * rest > den || (2 * rest == den && quotient % 2 == 1) then quotient + 1 else quotient

/-- The number with significand `significand ≤ 2 ^ 53` at scale `scale`.  A significand below
`2 ^ 52` is subnormal and stands at scale `-1074`; too large a number is an infinity. -/
def pack (negative : Bool) (significand : Nat) (scale : Int) : Binary64 :=
  if significand < Nat.pow 2 52 then
    ⟨negative, 0, Fin.ofNat 4503599627370496 significand⟩
  else
    let exponent := (scale + 1075).toNat + (if significand = Nat.pow 2 53 then 1 else 0)
    if exponent ≥ 2047 then infinity negative
    else ⟨negative, Fin.ofNat 2048 exponent, Fin.ofNat 4503599627370496 significand⟩

/-- The scale at which `num / den` has a significand of 53 bits, or `-1074` if that is larger. -/
def scaleOf (num den : Nat) : Int :=
  let guess : Int := (num.log2 : Int) - (den.log2 : Int) - 52
  let quotient :=
    if 0 ≤ guess then num / (den * Nat.pow 2 guess.toNat) else num * Nat.pow 2 (-guess).toNat / den
  max (if quotient < Nat.pow 2 52 then guess - 1 else guess) (-1074)

/-- The number of the format nearest to `num / den`, ties to even. -/
def round (negative : Bool) (num den : Nat) : Binary64 :=
  if num = 0 then signedZero negative
  else
    let scale := scaleOf num den
    let significand :=
      if 0 ≤ scale then divideToEven num (den * Nat.pow 2 scale.toNat)
      else divideToEven (num * Nat.pow 2 (-scale).toNat) den
    pack negative significand scale

/-- The number nearest to an integer. -/
def ofInt (n : Int) : Binary64 :=
  round (n < 0) n.natAbs 1

/-- The number nearest to a natural number. -/
def ofNat (n : Nat) : Binary64 :=
  round false n 1

/-- The number nearest to `digits * 10 ^ exponent`.  The two first cases are decided by the
count of digits alone, which bounds the work for huge exponents. -/
def ofDecimal (negative : Bool) (digits : Nat) (exponent : Int) : Binary64 :=
  if digits = 0 then signedZero negative
  else
    let top : Int := ((Nat.toDigits 10 digits).length : Int) + exponent
    if top > 310 then infinity negative
    else if top < -324 then signedZero negative
    else if 0 ≤ exponent then round negative (digits * Nat.pow 10 exponent.toNat) 1
    else round negative digits (Nat.pow 10 (-exponent).toNat)

/-! ## Order -/

/-- Position on the number line; meaningful for everything but NaNs. -/
def order (x : Binary64) : Int :=
  let magnitude : Int := (x.exponent.val * 4503599627370496 + x.fraction.val : Nat)
  if x.negative then -magnitude else magnitude

/-- IEEE equality: a NaN equals nothing, the two zeros are equal. -/
def beq (x y : Binary64) : Bool :=
  !x.isNaN && !y.isNaN && x.order == y.order

/-- IEEE "less than"; false when a NaN takes part. -/
def lt (x y : Binary64) : Bool :=
  !x.isNaN && !y.isNaN && decide (x.order < y.order)

/-- IEEE "at most"; false when a NaN takes part. -/
def le (x y : Binary64) : Bool :=
  !x.isNaN && !y.isNaN && decide (x.order ≤ y.order)

theorem beq_comm (x y : Binary64) : x.beq y = y.beq x := by
  simp only [beq, Bool.and_comm]
  rw [show (x.order == y.order) = (y.order == x.order) from BEq.comm]

theorem beq_self (x : Binary64) : x.beq x = !x.isNaN := by
  simp [beq]

/-! ## Sign -/

/-- The number with the opposite sign, also for zeros and NaNs. -/
def neg (x : Binary64) : Binary64 :=
  { x with negative := !x.negative }

/-- The number without its sign. -/
def abs (x : Binary64) : Binary64 :=
  { x with negative := false }

@[simp]
theorem neg_neg (x : Binary64) : x.neg.neg = x := by
  simp [neg]

end Binary64

end Stencil
