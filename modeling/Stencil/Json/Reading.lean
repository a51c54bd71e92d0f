import Stencil.Json.Basic
import Stencil.Json.Fault
import Stencil.Json.Number
import Stencil.Text.Utf16

/-!
# Reading JSON texts

Readers go over a text from the front: words, numbers and strings first, then the arrays and objects
around them.
-/

namespace Stencil.Json

open Text

/-! ## Words and numbers -/

/-- The cursor after the letters of a word. -/
def readWord (cursor : Cursor) : List Char → Except ReadError Cursor
  | [] => .ok cursor
  | expected :: more =>
      match cursor.rest with
      | [] => cursor.fail .endInValue
      | c :: _ =>
          if c = expected then readWord (cursor.past c) more else (cursor.skip 1).fail .wordExpected

/-- The largest exponent that is told from its digits. -/
def largestExponent : Nat :=
  2147483647

/-- The exponent of a number after its mark and sign.  Digits beyond the largest exponent are only
counted. -/
def readExponentDigits (negative isZero : Bool) (cursor : Cursor) :
    Except ReadError (Int × Cursor) :=
  let digits := cursor.rest.takeWhile isDigit
  let after := cursor.skip digits.length
  if digits.isEmpty then
    if cursor.rest.isEmpty then cursor.fail .endInValue else (cursor.skip 1).fail .badNumber
  else
    let size := ofDigits 10 digits
    let beyond := (List.range digits.length).find? fun i =>
      largestExponent < ofDigits 10 (digits.take (i + 1))
    match beyond with
    | some i => if isZero || negative then .ok (if negative then -size else size, after)
        else (cursor.skip (i + 1)).fail .hugeNumber
    | none => .ok (if negative then -size else size, after)

/-- The exponent of a number, if its mark comes next. -/
def readExponent (isZero : Bool) (cursor : Cursor) : Except ReadError (Option Int × Cursor) :=
  match cursor.rest with
  | c :: rest =>
      if c = 'e' || c = 'E' then do
        let (exponent, cursor) ←
          match rest with
          | '-' :: _ => readExponentDigits true isZero (cursor.skip 2)
          | '+' :: _ => readExponentDigits false isZero (cursor.skip 2)
          | _ => readExponentDigits false isZero (cursor.skip 1)
        return (some exponent, cursor)
      else .ok (none, cursor)
  | [] => .ok (none, cursor)

/-- The fraction digits of a number, if a point comes next. -/
def readFraction (cursor : Cursor) : Except ReadError (List Char × Cursor) :=
  match cursor.rest with
  | '.' :: rest =>
      let digits := rest.takeWhile isDigit
      let after := cursor.skip 1
      if digits.isEmpty then
        after.failNext (if after.rest.isEmpty then .endInValue else .badNumber)
      else .ok (digits, after.skip digits.length)
  | _ => .ok ([], cursor)

/-- What a reader answers for the number behind which its cursor stands. -/
def numberRead (value : Option Binary64) (cursor : Cursor) : Except ReadError (Json × Cursor) :=
  match value with
  | some n => .ok (.number n, cursor)
  | none => cursor.fail .hugeNumber

/-- A number after its sign.  What the text tells is converted, which fails if it is too large. -/
def readNumber (convert : Numeral → Option Binary64) (negative : Bool) (cursor : Cursor) :
    Except ReadError (Json × Cursor) := do
  let whole ←
    match cursor.rest with
    | [] => cursor.fail .endInValue
    | '0' :: d :: _ => if isDigit d then (cursor.skip 1).failNext .badNumber else pure ['0']
    | c :: rest =>
        if isDigit c then
          pure (c :: if c = '0' then [] else rest.takeWhile isDigit)
        else (cursor.skip 1).fail .badNumber
  let (fraction, cursor) ← readFraction (cursor.skip whole.length)
  let (exponent, cursor) ← readExponent (ofDigits 10 (whole ++ fraction) == 0) cursor
  numberRead (convert ⟨negative, whole, fraction, exponent⟩) cursor

/-! ## Strings -/

/-- The unit of four hexadecimal digits. -/
def readHexUnit (cursor : Cursor) : Except ReadError (Nat × Cursor) :=
  match cursor.rest with
  | a :: b :: c :: d :: _ =>
      if [a, b, c, d].all isHexDigit then .ok (ofDigits 16 [a, b, c, d], cursor.skip 4)
      else .error ⟨.badEscape, cursor.offset + 4⟩
  | rest =>
      let size := utf8Length rest
      if 4 ≤ size then .error ⟨.badEscape, cursor.offset + 4⟩
      else .error ⟨.endInString, cursor.offset + size⟩

/-- The cursor after a character that the second half of a surrogate pair needs. -/
def readPairMark (c : Char) (cursor : Cursor) : Except ReadError Cursor :=
  match cursor.rest with
  | [] => cursor.fail .endInString
  | d :: _ => if d = c then .ok (cursor.skip 1) else (cursor.skip 1).fail .unfinishedPair

/-- The character of an escape after `\u`. -/
def readUnicode (cursor : Cursor) : Except ReadError (Char × Cursor) := do
  let (high, cursor) ← readHexUnit cursor
  if isLowSurrogate high then cursor.fail .loneSurrogate
  else if isHighSurrogate high then
    let cursor ← readPairMark '\\' cursor
    let cursor ← readPairMark 'u' cursor
    let (low, cursor) ← readHexUnit cursor
    if isLowSurrogate low then
      return (Char.ofNat (0x10000 + (high - 0xD800) * 0x400 + (low - 0xDC00)), cursor)
    else cursor.fail .loneSurrogate
  else return (Char.ofNat high, cursor)

/-- The character of an escape after its backslash. -/
def readEscape (cursor : Cursor) : Except ReadError (Char × Cursor) :=
  match cursor.rest with
  | [] => cursor.fail .endInString
  | c :: _ =>
      let next := cursor.skip 1
      match c with
      | '\x22' | '\\' | '/' => .ok (c, next)
      | 'b' => .ok ('\x08', next)
      | 'f' => .ok ('\x0c', next)
      | 'n' => .ok ('\n', next)
      | 'r' => .ok ('\r', next)
      | 't' => .ok ('\t', next)
      | 'u' => readUnicode next
      | _ => next.fail .badEscape

/-- The characters of a string up to its closing quote, in front of which `acc` was read.  Every
step consumes a character, so the length of the text bounds the steps. -/
def readString : Nat → List Char → Cursor → Except ReadError (String × Cursor)
  | 0, _, cursor => cursor.fail .endInString
  | steps + 1, acc, cursor =>
      match cursor.rest with
      | [] => cursor.fail .endInString
      | '\x22' :: _ => .ok (String.ofList acc.reverse, cursor.skip 1)
      | '\\' :: _ => do
          let (c, cursor) ← readEscape (cursor.skip 1)
          readString steps (c :: acc) cursor
      | c :: _ =>
          if c.toNat < 0x20 then (cursor.skip 1).fail .controlInString
          else readString steps (c :: acc) (cursor.past c)

/-- A string after its opening quote. -/
def readStringBody (cursor : Cursor) : Except ReadError (String × Cursor) :=
  readString (cursor.rest.length + 1) [] cursor

/-! ## Arrays and objects -/

/-- Goes to the next element of an array.  The flag tells whether there is one; otherwise the
closing bracket comes next. -/
def toNextItem (first : Bool) (cursor : Cursor) : Except ReadError (Bool × Cursor) :=
  let cursor := cursor.skipSpace
  match cursor.rest with
  | [] => cursor.failNext .endInList
  | ']' :: _ => .ok (false, cursor)
  | c :: _ =>
      if first then .ok (true, cursor)
      else if c = ',' then
        let cursor := (cursor.skip 1).skipSpace
        match cursor.rest with
        | [] => cursor.failNext .endInValue
        | ']' :: _ => cursor.failNext .trailingComma
        | _ => .ok (true, cursor)
      else cursor.failNext .listEndExpected

/-- The key that comes next in an object. -/
def readKey (cursor : Cursor) : Except ReadError (String × Cursor) :=
  match cursor.rest with
  | '\x22' :: _ => readStringBody (cursor.skip 1)
  | [] => cursor.failNext .endInValue
  | '\x7d' :: _ => cursor.failNext .trailingComma
  | _ => cursor.failNext .keyExpected

/-- Goes behind the key of the next field of an object.  If there is none, the closing brace comes
next. -/
def toNextField (first : Bool) (cursor : Cursor) : Except ReadError (Option String × Cursor) :=
  let cursor := cursor.skipSpace
  match cursor.rest with
  | [] => cursor.failNext .endInObject
  | '\x7d' :: _ => .ok (none, cursor)
  | c :: _ =>
      if !first && c ≠ ',' then cursor.failNext .objectEndExpected
      else do
        let (key, cursor) ← readKey (if first then cursor else (cursor.skip 1).skipSpace)
        return (some key, cursor)

/-- Goes behind the colon after a key. -/
def readColon (cursor : Cursor) : Except ReadError Cursor :=
  let cursor := cursor.skipSpace
  match cursor.rest with
  | ':' :: _ => .ok (cursor.skip 1)
  | [] => cursor.failNext .endInObject
  | _ => cursor.failNext .colonExpected

/-- The elements of an array up to its closing bracket, after those in `acc`.  Every step consumes a
character, so the length of the text bounds the steps. -/
def readItems (value : Cursor → Except ReadError (Json × Cursor)) :
    Nat → Bool → List Json → Cursor → Except ReadError (List Json × Cursor)
  | 0, _, _, cursor => cursor.fail .endInList
  | steps + 1, first, acc, cursor => do
      let (isItem, cursor) ← toNextItem first cursor
      if isItem then
        let (item, cursor) ← value cursor
        readItems value steps false (item :: acc) cursor
      else return (acc.reverse, cursor.skip 1)

/-- The fields of an object up to its closing brace, after those in `acc`.  Every step consumes a
character, so the length of the text bounds the steps. -/
def readFields (value : Cursor → Except ReadError (Json × Cursor)) :
    Nat → Bool → List (String × Json) → Cursor → Except ReadError (List (String × Json) × Cursor)
  | 0, _, _, cursor => cursor.fail .endInObject
  | steps + 1, first, acc, cursor => do
      match ← toNextField first cursor with
      | (none, cursor) => return (acc, cursor.skip 1)
      | (some key, cursor) =>
          let (item, cursor) ← value (← readColon cursor)
          readFields value steps false (Fields.insert key item acc) cursor

/-- The elements of an array after its opening bracket. -/
def readArray (value : Cursor → Except ReadError (Json × Cursor)) (cursor : Cursor) :
    Except ReadError (List Json × Cursor) :=
  readItems value (cursor.rest.length + 1) true [] cursor

/-- The fields of an object after its opening brace. -/
def readObject (value : Cursor → Except ReadError (Json × Cursor)) (cursor : Cursor) :
    Except ReadError (List (String × Json) × Cursor) :=
  readFields value (cursor.rest.length + 1) true [] cursor

/-! ## Values -/

/-- A value that is no array and no object. -/
def readScalar (convert : Numeral → Option Binary64) (cursor : Cursor) :
    Except ReadError (Json × Cursor) :=
  match cursor.rest with
  | [] => cursor.failNext .endInValue
  | 'n' :: _ => do return (.null, ← readWord (cursor.skip 1) ['u', 'l', 'l'])
  | 't' :: _ => do return (.bool true, ← readWord (cursor.skip 1) ['r', 'u', 'e'])
  | 'f' :: _ => do return (.bool false, ← readWord (cursor.skip 1) ['a', 'l', 's', 'e'])
  | '-' :: _ => readNumber convert true (cursor.skip 1)
  | '\x22' :: _ => do
      let (s, cursor) ← readStringBody (cursor.skip 1)
      return (.string s, cursor)
  | c :: _ => if isDigit c then readNumber convert false cursor else cursor.failNext .valueExpected

/-- A value in which arrays and objects nest up to a count of levels. -/
def readValue (convert : Numeral → Option Binary64) :
    Nat → Cursor → Except ReadError (Json × Cursor)
  | 0, cursor =>
      let cursor := cursor.skipSpace
      match cursor.rest with
      | '[' :: _ => cursor.failNext .tooDeep
      | '\x7b' :: _ => cursor.failNext .tooDeep
      | _ => readScalar convert cursor
  | levels + 1, cursor =>
      let cursor := cursor.skipSpace
      match cursor.rest with
      | '[' :: _ => do
          let (items, cursor) ← readArray (readValue convert levels) (cursor.skip 1)
          return (.array items, cursor)
      | '\x7b' :: _ => do
          let (fields, cursor) ← readObject (readValue convert levels) (cursor.skip 1)
          return (.object fields, cursor)
      | _ => readScalar convert cursor

/-- How deeply arrays and objects may nest. -/
def nestingLimit : Nat :=
  127

/-- What a reader makes of a whole text, behind which there is only white space. -/
def readWhole (reader : Cursor → Except ReadError (α × Cursor)) (s : String) :
    Except ReadError α := do
  let (value, cursor) ← reader ⟨s.toList, 0⟩
  let cursor := cursor.skipSpace
  if cursor.rest.isEmpty then return value else cursor.failNext .trailingText

/-- The value of a whole text. -/
def read (s : String) : Except ReadError Json :=
  readWhole (readValue Numeral.value? nestingLimit) s

end Stencil.Json
