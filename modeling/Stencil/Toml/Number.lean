import Stencil.Toml.Basic

/-!
# Numbers of TOML

Integers of 64 bits, in tens or in another base after its mark, and fractions.  An underscore may
stand between two digits.
-/

namespace Stencil.Toml.Reader

open Text

/-- Digits of a base, without the underscores between them. -/
def digits (base : Nat) : Reader (List Char) := do
  let run ← takeWhile fun c => c = '_' || (digitOf? base c).isSome
  let parts := run.splitOn '_'
  if parts.any List.isEmpty then failure
  return parts.flatten

/-- Digits of an integer in tens: none stand behind a zero in front. -/
def wholeDigits : Reader (List Char) := do
  if (← accepts (char '0')) then return ['0'] else digits 10

/-- A minus or plus sign, if there is one. -/
def sign? : Reader (Option Char) :=
  optional (satisfying fun c => c = '+' || c = '-')

/-- An integer of 64 bits. -/
def word64 (n : Int) : Reader Value :=
  if -9223372036854775808 ≤ n && n ≤ 9223372036854775807 then pure (.integer n) else failure

/-- An integer in the base of its mark. -/
def markedInteger : Reader Value := do
  char '0'
  let base ← (do char 'x'; return 16) <|> (do char 'o'; return 8) <|> (do char 'b'; return 2)
  word64 (ofDigits base (← digits base))

/-- The exponent of a fraction, if there is one. -/
def exponent? : Reader (Option Int) := do
  if (← accepts (satisfying fun c => c = 'e' || c = 'E')) then
    let sign ← sign?
    let size : Int := ofDigits 10 (← digits 10)
    return some (if sign = some '-' then -size else size)
  else return none

/-- An unsigned number in tens, with the sign in front of it.  A fraction may not overflow, except
below all others. -/
def decimal (negative : Bool) : Reader Value := do
  let whole ← wholeDigits
  let fraction ← if (← accepts (char '.')) then some <$> digits 10 else pure none
  let exponent ← exponent?
  if fraction.isNone && exponent.isNone then
    let size : Int := ofDigits 10 whole
    word64 (if negative then -size else size)
  else
    let fraction := fraction.getD []
    let value := Binary64.ofDecimal negative (ofDigits 10 (whole ++ fraction))
      (exponent.getD 0 - fraction.length)
    if value.isInfinite && !negative then failure
    return .float value

/-- Infinity, or what is not a number. -/
def special (negative : Bool) : Reader Value :=
  (do word ['i', 'n', 'f']; return .float (.infinity negative)) <|>
    (do word ['n', 'a', 'n']; return .float .nan)

/-- A number. -/
def number : Reader Value := do
  match (← optional markedInteger) with
  | some value => return value
  | none =>
      let sign ← sign?
      let negative := sign = some '-'
      special negative <|> decimal negative

end Stencil.Toml.Reader
