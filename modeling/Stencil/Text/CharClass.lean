import Stencil.Text.Tables.Alphanumeric

/-!
# Character classes

Identifiers, blanks and digits are told apart by Unicode properties.  A class is decided for
ASCII by comparison and for everything else by its table.
-/

namespace Stencil.Text

/-- Membership of a code point in a table of inclusive ranges. -/
def inRanges (table : List (Nat × Nat)) (code : Nat) : Bool :=
  table.any fun range => range.1 ≤ code && code ≤ range.2

/-- The Unicode property White_Space. -/
def isSpace (c : Char) : Bool :=
  let code := c.toNat
  (9 ≤ code && code ≤ 13) || code == 0x20 || code == 0x85 || code == 0xA0 || code == 0x1680 ||
    (0x2000 ≤ code && code ≤ 0x200A) || code == 0x2028 || code == 0x2029 || code == 0x202F ||
    code == 0x205F || code == 0x3000

/-- The ASCII decimal digits. -/
def isDigit (c : Char) : Bool :=
  48 ≤ c.toNat && c.toNat ≤ 57

/-- The ASCII letters. -/
def isAsciiLetter (c : Char) : Bool :=
  (65 ≤ c.toNat && c.toNat ≤ 90) || (97 ≤ c.toNat && c.toNat ≤ 122)

/-- The ASCII letters and decimal digits. -/
def isAsciiAlphanumeric (c : Char) : Bool :=
  isAsciiLetter c || isDigit c

/-- The Unicode property Alphabetic. -/
def isAlphabetic (c : Char) : Bool :=
  if c.toNat < 128 then isAsciiLetter c else inRanges Tables.alphabetic c.toNat

/-- The Unicode number categories. -/
def isNumeric (c : Char) : Bool :=
  if c.toNat < 128 then isDigit c else inRanges Tables.numeric c.toNat

/-- Letters and numbers of any script. -/
def isAlphanumeric (c : Char) : Bool :=
  isAlphabetic c || isNumeric c

/-- The value of an ASCII digit or letter as a digit of a large base: `a` and `A` are ten. -/
def digitValue? (c : Char) : Option Nat :=
  if isDigit c then some (c.toNat - 48)
  else if 65 ≤ c.toNat && c.toNat ≤ 90 then some (c.toNat - 55)
  else if 97 ≤ c.toNat && c.toNat ≤ 122 then some (c.toNat - 87)
  else none

/-- The value of a character as a digit of `base`. -/
def digitOf? (base : Nat) (c : Char) : Option Nat :=
  (digitValue? c).filter (· < base)

/-- The hexadecimal digits of either case. -/
def isHexDigit (c : Char) : Bool :=
  (digitOf? 16 c).isSome

/-- The number that digits spell in `base`; characters that are no digits count as zero. -/
def ofDigits (base : Nat) (digits : List Char) : Nat :=
  digits.foldl (fun n c => n * base + (digitValue? c).getD 0) 0

theorem isAlphanumeric_of_isAlphabetic {c : Char} (letter : isAlphabetic c = true) :
    isAlphanumeric c = true := by
  simp [isAlphanumeric, letter]

end Stencil.Text
