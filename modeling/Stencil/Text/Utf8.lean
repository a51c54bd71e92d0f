/-!
# UTF-8

The bytes of a character, the character that a complete byte sequence stands for, and the text
of a list of bytes.  Bytes that come from outside need not make up a text: they are cut into
characters and the beginnings of characters that are broken off.
-/

namespace Stencil.Text

/-- The bytes of a character. -/
def utf8Bytes (c : Char) : List Nat :=
  let n := c.toNat
  if n < 0x80 then [n]
  else if n < 0x800 then [0xC0 + n / 64, 0x80 + n % 64]
  else if n < 0x10000 then [0xE0 + n / 4096, 0x80 + n / 64 % 64, 0x80 + n % 64]
  else [0xF0 + n / 262144, 0x80 + n / 4096 % 64, 0x80 + n / 64 % 64, 0x80 + n % 64]

/-- The length of a text in bytes. -/
def utf8Length : List Char → Nat
  | [] => 0
  | c :: rest => (utf8Bytes c).length + utf8Length rest

/-- How many bytes follow a leading byte, if it is one. -/
def continuationCount? (lead : Nat) : Option Nat :=
  if lead < 0x80 then some 0
  else if lead < 0xC2 then none
  else if lead < 0xE0 then some 1
  else if lead < 0xF0 then some 2
  else if lead < 0xF5 then some 3
  else none

/-- The character of a code point that is not a surrogate. -/
def charOfCode? (n : Nat) : Option Char :=
  if n.isValidChar then some (Char.ofNat n) else none

/-- The code point that a leading byte and continuation bytes add up to. -/
def codeOfBytes (lead : Nat) (rest : List Nat) : Nat :=
  let top := match rest.length with
    | 0 => lead
    | 1 => lead - 0xC0
    | 2 => lead - 0xE0
    | _ => lead - 0xF0
  rest.foldl (fun n b => n * 64 + (b - 0x80)) top

/-- The character of a byte sequence: all continuation bytes are in range and the code point is
not one that fewer bytes can write. -/
def charOfBytes? (lead : Nat) (rest : List Nat) : Option Char :=
  if rest.all fun b => 0x80 ≤ b && b < 0xC0 then
    (charOfCode? (codeOfBytes lead rest)).filter fun c => utf8Bytes c == lead :: rest
  else none

/-- The text that a list of bytes holds, if it is made of complete characters. -/
def ofUtf8? : List Nat → Option (List Char)
  | [] => some []
  | lead :: rest =>
      match continuationCount? lead with
      | none => none
      | some count =>
          match charOfBytes? lead (rest.take count) with
          | none => none
          | some c => (ofUtf8? (rest.drop count)).map (c :: ·)
termination_by bytes => bytes.length
decreasing_by simp only [List.length_drop, List.length_cons]; omega

/-! ## Bytes that are no text -/

/-- A part of a list of bytes. -/
inductive Utf8Part where
  | character (c : Char)
  /-- Bytes that begin a character which does not go on behind them, or a byte that begins none. -/
  | broken (bytes : List Nat)

/-- Whether a character can go on with a byte behind its leading one.  The ranges of some leading
bytes leave out surrogates, code points that fewer bytes can write, and those that are too large. -/
def mayFollow (lead second : Nat) : Bool :=
  let low := if lead = 0xE0 then 0xA0 else if lead = 0xF0 then 0x90 else 0x80
  let high := if lead = 0xED then 0xA0 else if lead = 0xF4 then 0x90 else 0xC0
  low ≤ second && second < high

/-- How many bytes behind a leading one go on with its character, which they do not finish. -/
def brokenCount (lead : Nat) (rest : List Nat) : Nat :=
  match continuationCount? lead, rest with
  | some count, second :: _ =>
      if mayFollow lead second then
        ((rest.take count).takeWhile fun b => 0x80 ≤ b && b < 0xC0).length
      else 0
  | _, _ => 0

/-- The character of a leading byte and the bytes behind it, and the count of those it takes. -/
def firstCharacter? (lead : Nat) (rest : List Nat) : Option (Char × Nat) := do
  let count ← continuationCount? lead
  return (← charOfBytes? lead (rest.take count), count)

/-- The parts of a list of bytes behind the first `skipped` ones. -/
def utf8Parts (skipped : Nat) : List Nat → List Utf8Part
  | [] => []
  | lead :: rest =>
      match skipped with
      | skipped + 1 => utf8Parts skipped rest
      | 0 =>
          match firstCharacter? lead rest with
          | some (c, count) => .character c :: utf8Parts count rest
          | none =>
              let count := brokenCount lead rest
              .broken (lead :: rest.take count) :: utf8Parts count rest

/-- The character that stands for a broken one. -/
def replacementCharacter : Char :=
  '\uFFFD'

/-- The character that shows a part. -/
def Utf8Part.shown : Utf8Part → Char
  | character c => c
  | broken _ => replacementCharacter

end Stencil.Text

namespace Stencil

/-- A text as a system keeps it: bytes, which need not be UTF-8. -/
structure RawText where
  bytes : List UInt8
  deriving DecidableEq

namespace RawText

/-- The bytes of a text. -/
@[coe]
def ofText (s : String) : RawText :=
  ⟨s.toList.flatMap String.utf8EncodeChar⟩

instance : Coe String RawText :=
  ⟨ofText⟩

/-- The text, if the bytes are UTF-8. -/
def text? (raw : RawText) : Option String :=
  (Text.ofUtf8? (raw.bytes.map UInt8.toNat)).map String.ofList

/-- The parts of the bytes. -/
def parts (raw : RawText) : List Text.Utf8Part :=
  Text.utf8Parts 0 (raw.bytes.map UInt8.toNat)

/-- The text with a mark in place of everything that is not UTF-8. -/
def display (raw : RawText) : String :=
  String.ofList (raw.parts.map Text.Utf8Part.shown)

end RawText

end Stencil
