import Stencil.Text.CharClass
import Stencil.Text.Utf16

/-!
# Percent coding

Texts inside addresses: every byte of a character that may not stand for itself is written as
`%` and two hexadecimal digits.  Decoding puts the bytes of the escapes among the bytes of the
other characters and reads the whole as one text.  An older pair of functions codes 16-bit units
instead and never fails.
-/

namespace Stencil.Text

/-- A hexadecimal digit in uppercase. -/
def upperHexDigit (d : Nat) : Char :=
  if d < 10 then Char.ofNat (48 + d) else Char.ofNat (55 + d)

/-- The escape of a byte. -/
def percentByte (b : Nat) : List Char :=
  ['%', upperHexDigit (b / 16), upperHexDigit (b % 16)]

/-- The escapes of the bytes of a character. -/
def percentChar (c : Char) : List Char :=
  (utf8Bytes c).flatMap percentByte

/-- A text with every character escaped that is not kept. -/
def percentEncode (keeps : Char → Bool) (s : List Char) : List Char :=
  s.flatMap fun c => if keeps c then [c] else percentChar c

/-- The delimiters of an address as a whole. -/
def uriDelimiters : List Char :=
  [';', '/', '?', ':', '@', '&', '=', '+', '$', ',', '#']

/-- Characters that stand for themselves in a part of an address. -/
def isComponentChar (c : Char) : Bool :=
  isAsciiAlphanumeric c || c ∈ ['-', '_', '.', '!', '~', '*', '\x27', '(', ')']

/-- A part of an address. -/
def encodeUriComponent (s : List Char) : List Char :=
  percentEncode isComponentChar s

/-- A whole address, whose delimiters stay. -/
def encodeUri (s : List Char) : List Char :=
  percentEncode (fun c => isComponentChar c || uriDelimiters.contains c) s

/-- The byte that two hexadecimal digits spell. -/
def hexByte? (high low : Char) : Option Nat :=
  match digitOf? 16 high, digitOf? 16 low with
  | some h, some l => some (h * 16 + l)
  | _, _ => none

/-- The byte of an escape at the front of a text. -/
def readPercentByte? : List Char → Option (Nat × List Char)
  | '%' :: high :: low :: rest => (hexByte? high low).map fun b => (b, rest)
  | _ => none

/-- The bytes of `count` escapes at the front of a text. -/
def readPercentBytes? : Nat → List Char → Option (List Nat × List Char)
  | 0, s => some ([], s)
  | count + 1, s =>
      match readPercentByte? s with
      | none => none
      | some (b, rest) => (readPercentBytes? count rest).map fun (bs, rest) => (b :: bs, rest)

/-- The character that the escapes at the front of a text spell. -/
def readPercentChar? (s : List Char) : Option (Char × List Char) :=
  match readPercentByte? s with
  | none => none
  | some (lead, rest) =>
      match continuationCount? lead with
      | none => none
      | some count =>
          match readPercentBytes? count rest with
          | none => none
          | some (bytes, rest) => (charOfBytes? lead bytes).map fun c => (c, rest)

/-- The bytes of a percent-coded text, or nothing if an escape is malformed.  Escapes of preserved
bytes stay as they are written. -/
def unescapedBytes? (preserves : Nat → Bool) : List Char → Option (List Nat)
  | [] => some []
  | c :: rest =>
      if c = '%' then
        match rest with
        | high :: low :: rest =>
            match hexByte? high low with
            | none => none
            | some b =>
                let written := if preserves b then [c, high, low].flatMap utf8Bytes else [b]
                (unescapedBytes? preserves rest).map (written ++ ·)
        | _ => none
      else (unescapedBytes? preserves rest).map (utf8Bytes c ++ ·)

/-- The text that a percent-coded text stands for, if its bytes are those of a text. -/
def percentDecode? (preserves : Nat → Bool) (s : List Char) : Option (List Char) :=
  (unescapedBytes? preserves s).bind ofUtf8?

/-- A decoded part of an address. -/
def decodeUriComponent? (s : List Char) : Option (List Char) :=
  percentDecode? (fun _ => false) s

/-- A decoded whole address; escaped delimiters stay escaped. -/
def decodeUri? (s : List Char) : Option (List Char) :=
  percentDecode? (uriDelimiters.map Char.toNat).contains s

/-! ## Coding of 16-bit units -/

/-- Characters that unit coding keeps. -/
def isUnitChar (c : Char) : Bool :=
  isAsciiAlphanumeric c || c ∈ ['@', '*', '_', '+', '-', '.', '/']

/-- The escape of a unit: two digits up to `FF`, four after a `u` otherwise. -/
def escapeUnit (unit : Nat) : List Char :=
  if unit < 256 then percentByte unit
  else
    ['%', 'u', upperHexDigit (unit / 4096), upperHexDigit (unit / 256 % 16),
      upperHexDigit (unit / 16 % 16), upperHexDigit (unit % 16)]

/-- A text with every unit escaped that is not kept. -/
def escapeUnits (s : List Char) : List Char :=
  s.flatMap fun c => if isUnitChar c then [c] else (utf16Units c).flatMap escapeUnit

/-- The value of hexadecimal digits, if all characters are such. -/
def hexValue? (s : List Char) : Option Nat :=
  if s.all isHexDigit then some (ofDigits 16 s) else none

/-- The units of a text with escapes.  What is no escape stands for itself. -/
def unescapedUnits : List Char → List Nat
  | [] => []
  | '%' :: 'u' :: a :: b :: c :: d :: rest =>
      match hexValue? [a, b, c, d] with
      | some unit => unit :: unescapedUnits rest
      | none => utf16Units '%' ++ unescapedUnits ('u' :: a :: b :: c :: d :: rest)
  | '%' :: a :: b :: rest =>
      match if a = 'u' then none else hexValue? [a, b] with
      | some unit => unit :: unescapedUnits rest
      | none => utf16Units '%' ++ unescapedUnits (a :: b :: rest)
  | c :: rest => utf16Units c ++ unescapedUnits rest

/-- The text of a text with unit escapes. -/
def unescapeUnits (s : List Char) : List Char :=
  ofUtf16 (unescapedUnits s)

end Stencil.Text
