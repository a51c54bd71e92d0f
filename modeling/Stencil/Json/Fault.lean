import Stencil.Number.Digits
import Stencil.Text.Utf8

/-!
# What can be wrong with a JSON text

A text is read from the front.  What is wrong with it is reported together with the byte up to which
it was read, counted by line and column.
-/

namespace Stencil.Json

open Text

/-- What can be wrong with a text. -/
inductive Fault where
  | endInValue
  | endInList
  | endInObject
  | endInString
  | valueExpected
  | wordExpected
  | colonExpected
  | listEndExpected
  | objectEndExpected
  | keyExpected
  | trailingComma
  | trailingText
  | badEscape
  | badNumber
  | hugeNumber
  | controlInString
  | loneSurrogate
  | unfinishedPair
  | tooDeep
  /-- A value of another kind than was wanted. -/
  | mismatch (found wanted : String)
  | repeatedField (name : String)
  deriving DecidableEq

/-- The wording of a fault. -/
def Fault.message : Fault → String
  | endInValue => "EOF while parsing a value"
  | endInList => "EOF while parsing a list"
  | endInObject => "EOF while parsing an object"
  | endInString => "EOF while parsing a string"
  | valueExpected => "expected value"
  | wordExpected => "expected ident"
  | colonExpected => "expected `:`"
  | listEndExpected => "expected `,` or `]`"
  | objectEndExpected => "expected `,` or `\x7d`"
  | keyExpected => "key must be a string"
  | trailingComma => "trailing comma"
  | trailingText => "trailing characters"
  | badEscape => "invalid escape"
  | badNumber => "invalid number"
  | hugeNumber => "number out of range"
  | controlInString => "control character (\\u0000-\\u001F) found while parsing a string"
  | loneSurrogate => "lone leading surrogate in hex escape"
  | unfinishedPair => "unexpected end of hex escape"
  | tooDeep => "recursion limit exceeded"
  | mismatch found wanted => "invalid type: " ++ found ++ ", expected " ++ wanted
  | repeatedField name => "duplicate field `" ++ name ++ "`"

/-- A fault and the count of bytes read before it was found. -/
structure ReadError where
  fault : Fault
  offset : Nat
  deriving DecidableEq

/-- Line and column after a count of bytes.  Columns count the bytes since the last line break. -/
def lineAndColumn (offset : Nat) : Nat → Nat → List Char → Nat × Nat
  | line, column, [] => (line, column)
  | line, column, c :: rest =>
      let size := (utf8Bytes c).length
      if offset < size then (line, column + offset)
      else if c = '\n' then lineAndColumn (offset - size) (line + 1) 0 rest
      else lineAndColumn (offset - size) line (column + size) rest

/-- The wording of an error in a text. -/
def ReadError.message (error : ReadError) (source : String) : String :=
  let (line, column) := lineAndColumn error.offset 1 0 source.toList
  error.fault.message ++ " at line " ++ String.ofList (Number.natText 10 line) ++ " column " ++
    String.ofList (Number.natText 10 column)

/-- The rest of a text and the count of bytes in front of it. -/
structure Cursor where
  rest : List Char
  offset : Nat

namespace Cursor

/-- The cursor after its first character, which is `c`. -/
def past (cursor : Cursor) (c : Char) : Cursor :=
  ⟨cursor.rest.drop 1, cursor.offset + (utf8Bytes c).length⟩

/-- The cursor after `count` characters of one byte each. -/
def skip (cursor : Cursor) (count : Nat) : Cursor :=
  ⟨cursor.rest.drop count, cursor.offset + count⟩

/-- An error at the bytes read so far. -/
def fail (cursor : Cursor) (fault : Fault) : Except ReadError α :=
  .error ⟨fault, cursor.offset⟩

/-- An error at the byte that comes next, or at the end of the text. -/
def failNext (cursor : Cursor) (fault : Fault) : Except ReadError α :=
  .error ⟨fault, if cursor.rest.isEmpty then cursor.offset else cursor.offset + 1⟩

/-- The cursor after white space. -/
def skipSpace (cursor : Cursor) : Cursor :=
  cursor.skip (cursor.rest.takeWhile fun c => c = ' ' || c = '\n' || c = '\t' || c = '\r').length

end Cursor

end Stencil.Json
