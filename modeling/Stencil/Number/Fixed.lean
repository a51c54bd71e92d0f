import Stencil.Number.Layout

/-!
# Fixed-point text

Numbers with a fixed count of fraction digits are rounded from their exact value: half away from
zero for an asked count of digits, half to even for grouped numbers.  For an asked count the decimal
expansion is cut off behind that many digits, and the first digit left out decides whether the last
digit kept is raised.
-/

namespace Stencil

namespace Number

/-- The first `count` digits of `rest / den` behind the point, by long division. -/
def fractionDigits (den : Nat) : Nat → Nat → List Nat
  | 0, _ => []
  | count + 1, rest => rest * 10 / den :: fractionDigits den count (rest * 10 % den)

/-- Digits with the last of them raised by one, and whether a carry goes out of the first. -/
def increment : List Nat → Bool × List Nat
  | [] => (true, [])
  | digit :: rest =>
      match increment rest with
      | (true, raised) => if digit = 9 then (true, 0 :: raised) else (false, (digit + 1) :: raised)
      | (false, raised) => (false, digit :: raised)

/-- Digits with the last of them raised by one.  A carry out of the first is one more digit. -/
def raise (digits : List Nat) : List Nat :=
  match increment digits with
  | (true, raised) => 1 :: raised
  | (false, raised) => raised

/-- A comma in front of every digit whose distance from the end is a multiple of three. -/
def grouped : List Char → List Char
  | [] => []
  | [d] => [d]
  | d :: rest => if rest.length % 3 = 0 then d :: ',' :: grouped rest else d :: grouped rest

end Number

namespace Binary64

/-- The digits of the magnitude of a finite number in front of the point and behind it.  No number
of the format has more than 1074 digits behind the point. -/
def expansion (x : Binary64) : List Nat × List Nat :=
  let (num, den) := x.ratio
  (Number.digits 10 (num / den), Number.fractionDigits den 1074 (num % den))

/-- The digits of the magnitude of a finite number, `places` of them behind the point.  The first
digit left out rounds them. -/
def fixedDigits (x : Binary64) (places : Nat) : List Nat :=
  let (whole, fraction) := x.expansion
  let kept := whole ++ (fraction ++ List.replicate places 0).take places
  if fraction[places]?.any (5 ≤ ·) then Number.raise kept else kept

/-- A finite number with exactly `places` fraction digits.  The sign of a negative number stays
even when all digits are zero. -/
def toFixed (x : Binary64) (places : Nat) : String :=
  let all := x.fixedDigits places
  let whole := Decimal.text (all.take (all.length - places))
  let fraction := Decimal.text (all.drop (all.length - places))
  let body := if places = 0 then whole else whole ++ '.' :: fraction
  String.ofList (if x.lt zero then '-' :: body else body)

/-- A number with its integer digits in groups of three and at most three fraction digits. -/
def toGrouped (x : Binary64) : String :=
  if !x.isFinite then x.toText
  else
    let (num, den) := x.ratio
    let thousandths := divideToEven (num * 1000) den
    let fraction := ((Number.padded 3 (thousandths % 1000)).reverse.dropWhile (· == '0')).reverse
    let whole := Number.grouped (Number.natText 10 (thousandths / 1000))
    let body := whole ++ (if fraction.isEmpty then [] else '.' :: fraction)
    String.ofList (if x.lt zero && thousandths != 0 then '-' :: body else body)

/-- A number in a radix.  Only whole numbers have a form in a radix other than ten; their
magnitude is capped at the largest 64-bit word. -/
def toRadix (x : Binary64) (radix : Nat) : String :=
  if radix = 10 || !x.isInteger then x.toText
  else
    let magnitude := Nat.min x.toInt.natAbs (Nat.pow 2 64 - 1)
    if magnitude = 0 then "0"
    else
      let body := Number.natText radix magnitude
      String.ofList (if x.lt zero then '-' :: body else body)

end Binary64

end Stencil
