/-!
# Places in a YAML text

Lines end at a line feed, a carriage return, both together, or one of the Unicode line breaks.
Columns count characters.
-/

namespace Stencil.Yaml

/-! ## Characters -/

/-- Characters that may stand in a text. -/
def isAllowed (c : Char) : Bool :=
  let n := c.toNat
  n = 0x09 || n = 0x0A || n = 0x0D || (0x20 ≤ n && n ≤ 0x7E) || n = 0x85 ||
    (0xA0 ≤ n && n ≤ 0xFFFD) || 0x10000 ≤ n

/-- Characters that end a line. -/
def isBreak (c : Char) : Bool :=
  c = '\n' || c = '\r' || c = '\x85' || c = '\u2028' || c = '\u2029'

/-- Spaces and tabs. -/
def isBlank (c : Char) : Bool :=
  c = ' ' || c = '\t'

/-- Characters of anchors, of directive names and of tag handles. -/
def isWordChar (c : Char) : Bool :=
  c.isAlphanum || c = '_' || c = '-'

/-- The rest of a text and its place. -/
structure Cursor where
  rest : List Char
  index : Nat
  line : Nat
  column : Nat

namespace Cursor

/-- The start of a text. -/
def ofText (s : List Char) : Cursor :=
  ⟨s, 0, 0, 0⟩

/-- The next character. -/
def head? (cursor : Cursor) : Option Char :=
  cursor.rest.head?

/-- Whether a test holds of the next character. -/
def next (test : Char → Bool) (cursor : Cursor) : Bool :=
  (cursor.head?.map test).getD false

/-- Whether a test holds of the character `i` places ahead; the end of the text passes. -/
def ends (test : Char → Bool) (i : Nat) (cursor : Cursor) : Bool :=
  ((cursor.rest[i]?).map test).getD true

/-- Whether the text goes on with `s`. -/
def startsWith (s : List Char) (cursor : Cursor) : Bool :=
  s.isPrefixOf cursor.rest

/-- The place after `count` characters of the same line. -/
def skip (count : Nat) (cursor : Cursor) : Cursor :=
  ⟨cursor.rest.drop count, cursor.index + count, cursor.line, cursor.column + count⟩

/-- Characters of the line that pass a test, and the place after them. -/
def takeWhile (test : Char → Bool) (cursor : Cursor) : List Char × Cursor :=
  let taken := cursor.rest.takeWhile test
  (taken, cursor.skip taken.length)

/-- The place after characters of the line that pass a test. -/
def skipWhile (test : Char → Bool) (cursor : Cursor) : Cursor :=
  (cursor.takeWhile test).2

/-- The place after `count` characters that end a line. -/
def newLine (count : Nat) (cursor : Cursor) : Cursor :=
  ⟨cursor.rest.drop count, cursor.index + count, cursor.line + 1, 0⟩

/-- The line break at a place, as it counts in a text, and the place after it. -/
def lineBreak (cursor : Cursor) : List Char × Cursor :=
  match cursor.rest with
  | '\r' :: '\n' :: _ => (['\n'], cursor.newLine 2)
  | c :: _ =>
      if c = '\u2028' || c = '\u2029' then ([c], cursor.newLine 1)
      else if isBreak c then (['\n'], cursor.newLine 1)
      else ([], cursor)
  | [] => ([], cursor)

/-- Whether the line or the text ends here. -/
def atLineEnd (cursor : Cursor) : Bool :=
  cursor.ends isBreak 0

/-- Whether a blank, the end of the line or the end of the text is `i` places ahead. -/
def blankAt (i : Nat) (cursor : Cursor) : Bool :=
  cursor.ends (fun c => isBlank c || isBreak c) i

/-- Whether a mark between documents stands here. -/
def atDocumentMark (cursor : Cursor) : Bool :=
  cursor.column = 0 && (cursor.startsWith ['-', '-', '-'] || cursor.startsWith ['.', '.', '.']) &&
    cursor.blankAt 3

/-- The place after the blanks and the comment at the end of a line, if nothing else is there. -/
def skipLineEnd? (cursor : Cursor) : Option Cursor :=
  let cursor := cursor.skipWhile isBlank
  let cursor := if cursor.next (· = '#') then cursor.skipWhile fun c => !isBreak c else cursor
  if cursor.atLineEnd then some cursor.lineBreak.2 else none

end Cursor

end Stencil.Yaml
