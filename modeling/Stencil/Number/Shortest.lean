import Stencil.Number.Arithmetic
import Stencil.Number.Digits

/-!
# Shortest decimal digits

A finite number stands for all reals that round to it, an interval around it.  Its shortest decimal
is the one with the fewest digits in that interval and, among those, the nearest to the number;
where two are equally near, the caller says which one to take.  For each count of digits only the
two neighbours of the number on the decimal grid can be nearest, so the search is seventeen
comparisons of naturals at most.
-/

namespace Stencil

/-- The decimal `d₁.d₂d₃… * 10 ^ exponent` of the digits `d₁, d₂, d₃, …`. -/
structure Decimal where
  digits : List Nat
  exponent : Int
  deriving DecidableEq

/-- Which of two equally near decimals is taken. -/
inductive Tie where
  | up
  | even
  deriving DecidableEq

namespace Binary64

/-- Exponent of the leading decimal digit of a positive finite number.  Every such number is at
least `10 ^ (-324)`, so the scaled integer part counts its digits. -/
def decimalExponent (x : Binary64) : Int :=
  let (num, den) := x.ratio
  ((Number.digits 10 (num * Nat.pow 10 324 / den)).length : Int) - 325

/-- The neighbour of `x` on the grid of `10 ^ unit` that rounds to `x` and is nearest to it, as a
multiple of the unit. -/
def nearestOnGrid (tie : Tie) (x : Binary64) (unit : Int) : Option Nat :=
  let scale := x.scale - 2
  let m := 4 * x.significand
  let a := Nat.pow 2 scale.toNat * Nat.pow 10 (-unit).toNat
  let b := Nat.pow 10 unit.toNat * Nat.pow 2 (-scale).toNat
  let low := (m - (if x.fraction.val = 0 && 1 < x.exponent.val then 1 else 2)) * a
  let high := (m + 2) * a
  let inside (c : Nat) : Bool :=
    if x.significand % 2 = 0 then low ≤ c * b && c * b ≤ high else low < c * b && c * b < high
  let below := m * a / b
  let above := below + 1
  match inside below, inside above with
  | true, true =>
      let down := m * a - below * b
      let up := above * b - m * a
      some (if down < up || (down = up && tie = .even && below % 2 = 0) then below else above)
  | true, false => some below
  | false, true => some above
  | false, false => none

/-- The shortest decimal of the magnitude of a finite number other than zero. -/
def shortest (tie : Tie) (x : Binary64) : Decimal :=
  let top := x.decimalExponent
  let found := (List.range 17).findSome? fun (extra : Nat) =>
    (x.nearestOnGrid tie (top - extra)).map fun c => (c, top - (extra : Int))
  let (c, unit) := found.getD (0, 0)
  let all := Number.digits 10 c
  ⟨(all.reverse.dropWhile (· == 0)).reverse, unit + (all.length : Int) - 1⟩

end Binary64

end Stencil
