import Stencil.Number.Reading
import Stencil.Text.Utf8

/-!
# Numbers at the front of a text

What follows a number does not matter here.  The reader of decimal numbers takes every byte that may
belong to a number, and gives back one byte after the other until it holds a number.  The reader of
integers takes the longest run of digits of a base.
-/

namespace Stencil.Number

open Text

/-! ## Decimal numbers -/

/-- What a scan has met of a number.  A sign fits at the front and behind the mark of an
exponent. -/
structure Scan where
  signFits : Bool
  hasDigit : Bool
  hasPoint : Bool
  hasMark : Bool

namespace Scan

/-- A scan that has met nothing. -/
def start : Scan :=
  ⟨true, false, false, false⟩

/-- The scan behind one more byte, if that byte may belong to the number. -/
def next? (scan : Scan) (b : Nat) : Option Scan :=
  if 48 ≤ b && b ≤ 57 then some { scan with signFits := false, hasDigit := true }
  else if b = '+'.toNat || b = '-'.toNat then
    if scan.signFits then some { scan with signFits := false } else none
  else if b = '.'.toNat then
    if scan.hasPoint || scan.hasMark then none
    else some { scan with signFits := false, hasPoint := true }
  else if b = 'e'.toNat || b = 'E'.toNat then
    if scan.hasDigit && !scan.hasMark then some { scan with signFits := true, hasMark := true }
    else none
  else none

/-- How many bytes may belong to the number. -/
def reach (scan : Scan) : List Nat → Nat
  | [] => 0
  | b :: rest =>
      match scan.next? b with
      | some further => further.reach rest + 1
      | none => 0

end Scan

/-- The number in the first bytes, of which one after the other is given back until the bytes left
are the text of a number.  No bytes are no number. -/
def giveBack (bytes : List Nat) : Nat → Binary64
  | 0 => Binary64.nan
  | size + 1 =>
      match (ofUtf8? (bytes.take (size + 1))).bind readDecimal? with
      | some n => n
      | none => giveBack bytes size

/-- The longest number at the front of a text, after leading white space. -/
def readPrefix (s : String) : Binary64 :=
  let text := trimStart s.toList
  let (negative, unsigned) := readSign text
  if "Infinity".toList.isPrefixOf unsigned then Binary64.infinity negative
  else
    let bytes := text.flatMap utf8Bytes
    giveBack bytes (Scan.start.reach bytes)

/-! ## Integers -/

/-- The base that a radix stands for in front of a text, and the text behind the mark of that base.
Radix zero stands for sixteen in front of `0x` and for ten otherwise. -/
def chooseBase (radix : Nat) (unsigned : List Char) : Nat × List Char :=
  if radix = 0 || radix = 16 then
    match afterHexMark? unsigned with
    | some rest => (16, rest)
    | none => (if radix = 0 then 10 else 16, unsigned)
  else (radix, unsigned)

/-- Digits of a base, added up in floating point from the first one on. -/
def sumDigits (base : Nat) (digits : List Char) : Binary64 :=
  digits.foldl
    (fun sum c => (sum.mul (Binary64.ofNat base)).add (Binary64.ofNat ((digitValue? c).getD 0)))
    Binary64.zero

/-- Whether a character is a digit of a base. -/
def isDigitOf (base : Nat) (c : Char) : Bool :=
  (digitOf? base c).isSome

/-- The sum of the longest run of digits at the front of a text, after leading white space and a
sign. -/
def readInteger (s : String) (radix : Nat) : Binary64 :=
  let (negative, unsigned) := readSign (trimStart s.toList)
  let (base, body) := chooseBase radix unsigned
  if base < 2 || 36 < base then Binary64.nan
  else
    let digits := body.takeWhile (isDigitOf base)
    if digits.isEmpty then Binary64.nan
    else if negative then (sumDigits base digits).neg
    else sumDigits base digits

end Stencil.Number
