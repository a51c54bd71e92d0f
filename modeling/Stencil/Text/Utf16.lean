import Stencil.Text.Utf8

/-!
# UTF-16

The 16-bit units of a text, and the text of a list of units.
-/

namespace Stencil.Text

/-- The units of a character: one, or a surrogate pair. -/
def utf16Units (c : Char) : List Nat :=
  let n := c.toNat
  if n < 0x10000 then [n]
  else [0xD800 + (n - 0x10000) / 0x400, 0xDC00 + (n - 0x10000) % 0x400]

/-- Units that begin a pair. -/
def isHighSurrogate (unit : Nat) : Bool :=
  0xD800 ≤ unit && unit < 0xDC00

/-- Units that end a pair. -/
def isLowSurrogate (unit : Nat) : Bool :=
  0xDC00 ≤ unit && unit < 0xE000

/-- The text of a list of units; a surrogate without its partner becomes U+FFFD. -/
def ofUtf16 : List Nat → List Char
  | [] => []
  | [unit] => [(charOfCode? unit).getD '\uFFFD']
  | high :: low :: rest =>
      if isHighSurrogate high && isLowSurrogate low then
        (charOfCode? (0x10000 + (high - 0xD800) * 0x400 + (low - 0xDC00))).getD '\uFFFD' ::
          ofUtf16 rest
      else (charOfCode? high).getD '\uFFFD' :: ofUtf16 (low :: rest)

end Stencil.Text
