import Stencil.Text.Percent
import Stencil.Yaml.Scalar

/-!
# Tokens of YAML

The tokens that make up a YAML text, and the readers of those that are spelt out.  Blocks of a
larger indentation are tokens too: they begin and end where the indentation says.
-/

namespace Stencil.Yaml

open Text

/-- A token. -/
inductive Token where
  | versionDirective (isKnown : Bool)
  | tagDirective (handle tagPrefix : List Char)
  | documentStart
  | documentEnd
  | blockSequence
  | blockMapping
  | blockEnd
  | flowSequence
  | flowSequenceEnd
  | flowMapping
  | flowMappingEnd
  | blockEntry
  | flowEntry
  | key
  | value
  | alias (name : List Char)
  | anchor (name : List Char)
  | tag (handle suffix : List Char)
  | scalar (isPlain : Bool) (text : List Char)
  deriving DecidableEq

/-- A token with the place after it. -/
abbrev ScannedToken :=
  Option (Token × Cursor)

/-! ## Anchors -/

/-- Characters that may follow the name of an anchor. -/
def endsAnchor (c : Char) : Bool :=
  isBlank c || isBreak c || "?:,]\x7d%@\x60".toList.contains c

/-- The name of an anchor or an alias after its mark. -/
def readAnchorName? (cursor : Cursor) : Option (List Char × Cursor) :=
  let (name, cursor) := cursor.takeWhile isWordChar
  if name.isEmpty || !cursor.ends endsAnchor 0 then none else some (name, cursor)

/-! ## Tags -/

/-- Characters of a tag.  Those of lists stand in a full tag only. -/
def isTagChar (full : Bool) (c : Char) : Bool :=
  isWordChar c || ";/?:@&=+$.!~*'()".toList.contains c || (full && ",[]".toList.contains c)

/-- The characters of a tag, with escapes of bytes.  The length of the text bounds the steps. -/
def readTagChars? (full : Bool) : Nat → List Char → Cursor → Option (List Char × Cursor)
  | 0, acc, cursor => some (acc, cursor)
  | steps + 1, acc, cursor =>
      match cursor.rest with
      | [] => some (acc, cursor)
      | c :: _ =>
          if c = '%' then
            match readPercentChar? cursor.rest with
            | none => none
            | some (d, rest) =>
                readTagChars? full steps (acc ++ [d])
                  (cursor.skip (cursor.rest.length - rest.length))
          else if isTagChar full c then readTagChars? full steps (acc ++ [c]) (cursor.skip 1)
          else some (acc, cursor)

/-- A non-empty run of characters of a tag after those in `acc`. -/
def readTagText? (full : Bool) (acc : List Char) (cursor : Cursor) :
    Option (List Char × Cursor) :=
  (readTagChars? full (cursor.rest.length + 1) acc cursor).filter fun (text, _) => !text.isEmpty

/-- A handle: an exclamation mark, or a word between two of them.  The flag tells whether it is
complete. -/
def readHandle? (cursor : Cursor) : Option (List Char × Bool × Cursor) :=
  if cursor.next (· = '!') then
    let (word, cursor) := (cursor.skip 1).takeWhile isWordChar
    if cursor.next (· = '!') then some ('!' :: word ++ ['!'], true, cursor.skip 1)
    else some ('!' :: word, word.isEmpty, cursor)
  else none

/-- A tag: a full one between angle brackets, one of a declared handle, or a local one. -/
def readTag? (inFlow : Bool) (cursor : Cursor) : ScannedToken := do
  let (handle, suffix, cursor) ←
    if cursor.startsWith ['!', '<'] then do
      let (text, cursor) ← readTagText? true [] (cursor.skip 2)
      if cursor.next (· = '>') then some ([], text, cursor.skip 1) else none
    else do
      let (handle, complete, after) ← readHandle? cursor
      if complete && handle.length > 1 then do
        let (suffix, cursor) ← readTagText? false [] after
        some (handle, suffix, cursor)
      else do
        let (suffix, cursor) ← readTagChars? false (after.rest.length + 1) (handle.drop 1) after
        some (if suffix.isEmpty then ([], ['!'], cursor) else (['!'], suffix, cursor))
  if cursor.blankAt 0 || (inFlow && cursor.next (· = ',')) then
    some (.tag handle suffix, cursor)
  else none

/-! ## Directives -/

/-- A number of a version: up to nine digits. -/
def readVersionNumber? (cursor : Cursor) : Option (Nat × Cursor) :=
  let (digits, cursor) := cursor.takeWhile isDigit
  if digits.isEmpty || 9 < digits.length then none else some (ofDigits 10 digits, cursor)

/-- A directive, up to the end of its line. -/
def readDirective? (cursor : Cursor) : ScannedToken := do
  let (name, cursor) := (cursor.skip 1).takeWhile isWordChar
  if !cursor.blankAt 0 then none
  let cursor := cursor.skipWhile isBlank
  let (token, cursor) ←
    if name = "YAML".toList then do
      let (major, cursor) ← readVersionNumber? cursor
      if !cursor.next (· = '.') then none
      let (minor, cursor) ← readVersionNumber? (cursor.skip 1)
      some (Token.versionDirective (major = 1 && (minor = 1 || minor = 2)), cursor)
    else if name = "TAG".toList then do
      let (handle, complete, cursor) ← readHandle? cursor
      if !complete || !cursor.next isBlank then none
      let (tagPrefix, cursor) ← readTagText? true [] (cursor.skipWhile isBlank)
      if !cursor.blankAt 0 then none
      some (Token.tagDirective handle tagPrefix, cursor)
    else none
  let cursor ← cursor.skipLineEnd?
  some (token, cursor)

end Stencil.Yaml
