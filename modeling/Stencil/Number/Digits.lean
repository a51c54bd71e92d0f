/-!
# Positional digits

The digits of a natural number in a base, and the text they make.
-/

namespace Stencil.Number

/-- The digits of `n` in `base`, most significant first, in front of `tail`.  A base below two has
no digits, and the number itself stands in for them. -/
def digitsBefore (base n : Nat) (tail : List Nat) : List Nat :=
  if base < 2 ∨ n < base then n :: tail
  else digitsBefore base (n / base) (n % base :: tail)
termination_by n
decreasing_by exact Nat.div_lt_self (by omega) (by omega)

/-- The digits of `n` in `base`, most significant first; zero has the one digit `0`. -/
def digits (base n : Nat) : List Nat :=
  digitsBefore base n []

/-- The character of a digit; ten is `a`. -/
def digitChar (d : Nat) : Char :=
  if d < 10 then Char.ofNat (48 + d) else Char.ofNat (87 + d)

/-- The text of a natural number in `base`. -/
def natText (base n : Nat) : List Char :=
  (digits base n).map digitChar

/-- The decimal text of a natural number, with zeros in front up to `width` digits. -/
def padded (width n : Nat) : List Char :=
  let text := natText 10 n
  List.replicate (width - text.length) '0' ++ text

/-- The decimal text of an integer. -/
def intText (n : Int) : List Char :=
  if n < 0 then '-' :: natText 10 n.natAbs else natText 10 n.natAbs

end Stencil.Number
