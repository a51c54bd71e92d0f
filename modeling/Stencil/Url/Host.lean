import Stencil.Url.Basic

/-!
# Hosts

The host of a web address is a name or a network address; hosts of other schemes are opaque.  A
host is kept in its written form: names in lowercase, network addresses in their shortest form.
Names are those of ASCII letters, digits and signs.
-/

namespace Stencil.Url

open Text

/-! ## Escapes -/

/-- Characters that are escaped everywhere: controls and everything outside ASCII. -/
def isControl (c : Char) : Bool :=
  c.toNat < 0x20 || 0x7F ≤ c.toNat

/-- A text with the characters escaped that a part of an address may not hold. -/
def escapeIn (escapes : Char → Bool) (s : List Char) : List Char :=
  percentEncode (fun c => !escapes c) s

/-- The parts between the occurrences of a character. -/
def splitAt (separator : Char) : List Char → List (List Char)
  | [] => [[]]
  | c :: rest =>
      if c = separator then [] :: splitAt separator rest
      else
        match splitAt separator rest with
        | [] => [[c]]
        | part :: more => (c :: part) :: more

/-! ## Addresses of four bytes -/

/-- A number in an address: decimal, octal after `0`, or hexadecimal after `0x`. -/
def readHostNumber? (s : List Char) : Option Nat :=
  let inBase (base : Nat) (digits : List Char) :=
    if digits.all fun c => (digitOf? base c).isSome then some (ofDigits base digits) else none
  match s with
  | [] => none
  | '0' :: 'x' :: digits => inBase 16 digits
  | '0' :: 'X' :: digits => inBase 16 digits
  | '0' :: d :: digits => inBase 8 (d :: digits)
  | digits => inBase 10 digits

/-- The parts of a name between dots, without an empty part at the end. -/
def hostParts (name : List Char) : List (List Char) :=
  let parts := splitAt '.' name
  if parts.getLast? = some [] then parts.dropLast else parts

/-- Names whose last part is a number are read as network addresses. -/
def endsInNumber (name : List Char) : Bool :=
  match (hostParts name).getLast? with
  | none => false
  | some last => (!last.isEmpty && last.all isDigit) || (readHostNumber? last).isSome

/-- An address of at most four numbers, the last of which fills the remaining bytes. -/
def readIpv4? (name : List Char) : Option Nat := do
  let parts := hostParts name
  if 4 < parts.length then failure
  let numbers ← parts.mapM readHostNumber?
  let last ← numbers.getLast?
  let leading := numbers.dropLast
  if leading.any (255 < ·) || Nat.pow 256 (4 - leading.length) ≤ last then failure
  let high := leading.foldl (fun n b => n * 256 + b) 0
  return high * Nat.pow 256 (4 - leading.length) + last

/-- Four decimal bytes between dots. -/
def ipv4Text (address : Nat) : List Char :=
  ['.'].intercalate ([16777216, 65536, 256, 1].map fun unit =>
    Number.natText 10 (address / unit % 256))

/-! ## Addresses of eight groups -/

/-- A decimal byte without a leading zero. -/
def readByte? (s : List Char) : Option Nat :=
  let n := ofDigits 10 s
  if !s.isEmpty && s.all isDigit && (s.length = 1 || s.head? ≠ some '0') && n ≤ 255 then some n
  else none

/-- Four decimal bytes between dots, as two groups. -/
def readDotted? (s : List Char) : Option (List Nat) := do
  match ← (splitAt '.' s).mapM readByte? with
  | [a, b, c, d] => return [a * 256 + b, c * 256 + d]
  | _ => failure

/-- A group of at most four hexadecimal digits. -/
def readGroup? (s : List Char) : Option Nat :=
  if !s.isEmpty && s.length ≤ 4 && s.all isHexDigit then some (ofDigits 16 s) else none

/-- Groups between colons, where the last may be four dotted bytes. -/
def readGroups? : List (List Char) → Option (List Nat)
  | [] => some []
  | [last] => if last.contains '.' then readDotted? last else (readGroup? last).map ([·])
  | group :: more => do
      let n ← readGroup? group
      let rest ← readGroups? more
      return n :: rest

/-- One side of a double colon. -/
def readSide? (s : List Char) : Option (List Nat) :=
  if s.isEmpty then some [] else readGroups? (splitAt ':' s)

/-- The text before and after the first double colon. -/
def cutDoubleColon : List Char → Option (List Char × List Char)
  | [] => none
  | ':' :: ':' :: rest => some ([], rest)
  | c :: rest => (cutDoubleColon rest).map fun (before, after) => (c :: before, after)

/-- An address of eight groups; a double colon stands for one or more groups of zero. -/
def readIpv6? (s : List Char) : Option (List Nat) := do
  match cutDoubleColon s with
  | none =>
      let groups ← readSide? s
      if groups.length = 8 then return groups else failure
  | some (before, after) =>
      if before.contains '.' then failure
      let left ← readSide? before
      let right ← readSide? after
      if left.length + right.length ≤ 7 then
        return left ++ List.replicate (8 - left.length - right.length) 0 ++ right
      else failure

/-- Length of the run of zeros at the front. -/
def zeroRun (groups : List Nat) : Nat :=
  (groups.takeWhile (· == 0)).length

/-- Start and length of the first longest run of zeros. -/
def longestZeroRun : Nat → List Nat → Nat × Nat
  | _, [] => (0, 0)
  | start, g :: rest =>
      let here := zeroRun (g :: rest)
      let (later, length) := longestZeroRun (start + 1) rest
      if length ≤ here then (start, here) else (later, length)

/-- Groups in hexadecimal between colons. -/
def groupsText (groups : List Nat) : List Char :=
  [':'].intercalate (groups.map (Number.natText 16))

/-- Eight groups in brackets, the first longest run of two or more zeros as a double colon. -/
def ipv6Text (groups : List Nat) : List Char :=
  let (start, length) := longestZeroRun 0 groups
  let body :=
    if length < 2 then groupsText groups
    else groupsText (groups.take start) ++ [':', ':'] ++ groupsText (groups.drop (start + length))
  '[' :: body ++ [']']

/-! ## Hosts -/

/-- A network address between brackets. -/
def readBracketed? (s : List Char) : Option (List Char) :=
  if s.getLast? = some ']' then (readIpv6? (s.drop 1).dropLast).map ipv6Text else none

/-- Characters that no name holds. -/
def isForbiddenInName (c : Char) : Bool :=
  isControl c || c ∈ [' ', '%', '#', '/', ':', '<', '>', '?', '@', '[', '\\', ']', '^', '|']

/-- Escapes replaced by the bytes they stand for; what is no escape stays. -/
def decodeEscapes : List Char → List Char
  | [] => []
  | '%' :: high :: low :: rest =>
      match readPercentByte? ['%', high, low] with
      | some (b, _) => Char.ofNat b :: decodeEscapes rest
      | none => '%' :: decodeEscapes (high :: low :: rest)
  | c :: rest => c :: decodeEscapes rest

/-- The host of a web or file address. -/
def readHost? (s : List Char) : Option (List Char) :=
  if s.head? = some '[' then readBracketed? s
  else
    let name := (decodeEscapes s).map Char.toLower
    if name.isEmpty || name.any isForbiddenInName then none
    else if endsInNumber name then (readIpv4? name).map ipv4Text
    else some name

/-- Characters that no opaque host holds. -/
def isForbiddenInOpaque (c : Char) : Bool :=
  c ∈ ['\x00', '\t', '\n', '\r', ' ', '#', '/', ':', '<', '>', '?', '@', '[', '\\', ']', '^', '|']

/-- The host of an address with a scheme of another kind. -/
def readOpaqueHost? (s : List Char) : Option (List Char) :=
  if s.head? = some '[' then readBracketed? s
  else if s.any isForbiddenInOpaque then none
  else some (escapeIn isControl s)

end Stencil.Url
