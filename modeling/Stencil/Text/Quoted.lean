import Stencil.Text.Tables.Printing
import Stencil.Text.CharClass
import Stencil.Text.Utf8

/-!
# Quoted text

Messages show a text between double quotes.  Quotes and backslashes are escaped, common controls
have short escapes, and a character that would not print on its own is written as its code point.
-/

namespace Stencil.Text

/-- Lowercase hexadecimal digits without leading zeros. -/
def hexDigits (n : Nat) : List Char :=
  Nat.toDigits 16 n

/-- Characters with a printed form that stands alone. -/
def isPrintable (c : Char) : Bool :=
  0x20 ≤ c.toNat &&
    (c.toNat < 127 ||
      !(inRanges Tables.unprintable c.toNat || inRanges Tables.graphemeExtend c.toNat))

/-- The escape that names a code point. -/
def codePointEscape (c : Char) : List Char :=
  ['\\', 'u', '\x7b'] ++ hexDigits c.toNat ++ ['\x7d']

/-- The written form of one character inside quotes. -/
def quoteChar (c : Char) : List Char :=
  if c = '\x22' then ['\\', '\x22']
  else if c = '\\' then ['\\', '\\']
  else if c = '\n' then ['\\', 'n']
  else if c = '\r' then ['\\', 'r']
  else if c = '\t' then ['\\', 't']
  else if c = '\x00' then ['\\', '0']
  else if isPrintable c then [c]
  else codePointEscape c

/-- A text between double quotes. -/
def quote (s : List Char) : List Char :=
  '\x22' :: s.flatMap quoteChar ++ ['\x22']

/-- A text between double quotes, as a string. -/
def quoted (s : String) : String :=
  String.ofList (quote s.toList)

/-- The written form of a part of a raw text inside quotes: apostrophes are escaped as well, and
the bytes of broken characters are written as hexadecimal digits. -/
def quotePart : Utf8Part → List Char
  | .character c => if c = '\x27' then ['\\', '\x27'] else quoteChar c
  | .broken bytes => bytes.flatMap fun b => ['\\', 'x'] ++ (hexDigits b).map Char.toUpper

/-- A raw text between double quotes. -/
def quotedRaw (raw : RawText) : String :=
  String.ofList ('\x22' :: raw.parts.flatMap quotePart ++ ['\x22'])

end Stencil.Text
