import Stencil.Number.Shortest

/-!
# Number layouts

How a decimal is laid out as text: positionally while its exponent lies within the bounds of a
layout, and in exponent form otherwise.  Three layouts are in use: the one of output and of
string conversion, the one of JSON texts, and a purely positional one for messages.
-/

namespace Stencil

namespace Decimal

/-- Digits as characters. -/
def text (digits : List Nat) : List Char :=
  digits.map Number.digitChar

/-- Positional form.  `whole` follows the digits of a number without a fraction part. -/
def positional (d : Decimal) (whole : List Char) : List Char :=
  if d.exponent < 0 then
    '0' :: '.' :: List.replicate (-d.exponent - 1).toNat '0' ++ text d.digits
  else
    let point := d.exponent.toNat + 1
    if d.digits.length ≤ point then
      text d.digits ++ List.replicate (point - d.digits.length) '0' ++ whole
    else text (d.digits.take point) ++ '.' :: text (d.digits.drop point)

/-- Exponent form, with a sign in front of every exponent. -/
def scientific (d : Decimal) : List Char :=
  let fraction := text (d.digits.drop 1)
  text (d.digits.take 1) ++ (if fraction.isEmpty then [] else '.' :: fraction) ++
    'e' :: (if d.exponent < 0 then '-' else '+') :: Number.natText 10 d.exponent.natAbs

end Decimal

/-- The choices of a layout: the exponents that are written positionally, what marks a positional
number without a fraction part, and which of two equally near decimals is written. -/
structure NumberLayout where
  isPositional : Int → Bool
  whole : List Char
  tie : Tie

namespace NumberLayout

/-- Layout of output and string conversion: positional from `1e-6` up to below `1e21`. -/
def output : NumberLayout :=
  ⟨fun e => -7 < e && e < 21, [], .up⟩

/-- Layout of JSON texts: positional from `1e-5` up to below `1e16`, whole numbers with `.0`. -/
def json : NumberLayout :=
  ⟨fun e => -6 < e && e < 16, ['.', '0'], .even⟩

/-- Layout without exponents. -/
def plain : NumberLayout :=
  ⟨fun _ => true, [], .up⟩

/-- The text of a decimal in a layout. -/
def write (layout : NumberLayout) (d : Decimal) : List Char :=
  if layout.isPositional d.exponent then d.positional layout.whole else d.scientific

/-- The text of a number other than zero, infinities and NaNs in a layout. -/
def writeNumber (layout : NumberLayout) (x : Binary64) : List Char :=
  let body := layout.write (x.shortest layout.tie)
  if x.negative then '-' :: body else body

end NumberLayout

namespace Binary64

/-- The output text of a number; both zeros are `0`. -/
def toText (x : Binary64) : String :=
  if x.isNaN then "NaN"
  else if x.isInfinite then (if x.negative then "-Infinity" else "Infinity")
  else if x.isZero then "0"
  else String.ofList (NumberLayout.output.writeNumber x)

/-- The text of a number in messages, which never has an exponent. -/
def toPlainText (x : Binary64) : String :=
  if x.isNaN then "NaN"
  else if x.isInfinite then (if x.negative then "-inf" else "inf")
  else if x.isZero then (if x.negative then "-0" else "0")
  else String.ofList (NumberLayout.plain.writeNumber x)

end Binary64

end Stencil
