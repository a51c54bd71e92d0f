import Stencil.Toml.Reader

/-!
# Strings and keys of TOML

A string stands between quotes, of which there are two kinds: with escapes between double quotes and
without between single ones.  Three quotes on either side allow line breaks.  A key is a name or a
string of one line, and a dotted key is a path of them.
-/

namespace Stencil.Toml.Reader

open Text

/-! ## Escapes -/

/-- The characters of the escapes of one letter. -/
def escapes : List (Char × Char) :=
  [('b', '\x08'), ('t', '\t'), ('n', '\n'), ('f', '\x0c'), ('r', '\r'), ('\x22', '\x22'),
    ('\\', '\\')]

/-- The character of a code in hexadecimal digits. -/
def codePoint (length : Nat) : Reader Char := do
  let digits := (← get).take length
  let code := ofDigits 16 digits
  if digits.length = length && digits.all isHexDigit && code.isValidChar then
    word digits
    return Char.ofNat code
  else failure

/-- The character of an escape behind its backslash. -/
def escape : Reader Char := do
  let c ← satisfying fun _ => true
  if c = 'u' then codePoint 4
  else if c = 'U' then codePoint 8
  else
    match escapes.lookup c with
    | some d => return d
    | none => failure

/-! ## Strings of one line -/

/-- The characters of a string up to its closing quote, in front of which `acc` was read. -/
def lineString (quote : Char) : Nat → List Char → Reader (List Char)
  | 0, _ => failure
  | steps + 1, acc => do
      let c ← satisfying isTextChar
      if c = quote then return acc.reverse
      else if quote = '\x22' && c = '\\' then lineString quote steps ((← escape) :: acc)
      else lineString quote steps (c :: acc)

/-- A string of one line. -/
def lineQuoted (quote : Char) : Reader String := do
  char quote
  return String.ofList (← lineString quote (← enough) [])

/-! ## Strings of several lines -/

/-- Three closing quotes, in front of which one or two more belong to the string.  The count of
those is the result. -/
def closing (quote : Char) : Reader Nat := do
  let count := min 5 ((← get).takeWhile (· = quote)).length
  if count < 3 then failure
  word (List.replicate count quote)
  return count - 3

/-- Lines without text, and the blanks in front of the next text. -/
def blankLines : Nat → Reader Unit
  | 0 => pure ()
  | steps + 1 => do
      blanks
      if (← accepts newline) then blankLines steps

/-- An escaped line break, with the blanks and line breaks around it. -/
def escapedBreak : Reader Unit := do
  char '\\'
  blanks
  newline
  blankLines (← enough)

/-- The characters of a string of several lines up to its closing quotes, in front of which `acc`
was read. -/
def blockString (quote : Char) : Nat → List Char → Reader (List Char)
  | 0, _ => failure
  | steps + 1, acc => do
      match (← optional (closing quote)) with
      | some more => return acc.reverse ++ List.replicate more quote
      | none =>
          if (← accepts newline) then blockString quote steps ('\n' :: acc)
          else if quote = '\x22' && (← peek) = some '\\' then
            if (← accepts escapedBreak) then blockString quote steps acc
            else
              char '\\'
              blockString quote steps ((← escape) :: acc)
          else blockString quote steps ((← satisfying isTextChar) :: acc)

/-- A string with the given quote. -/
def quoted (quote : Char) : Reader String := do
  if (← accepts (word [quote, quote, quote])) then
    let _ ← optional newline
    return String.ofList (← blockString quote (← enough) [])
  else lineQuoted quote

/-! ## Keys -/

/-- Characters of a name. -/
def isNameChar (c : Char) : Bool :=
  isAsciiAlphanumeric c || c = '-' || c = '_'

/-- A key of one part. -/
def simpleKey : Reader String := do
  match (← peek) with
  | some '\x22' => lineQuoted '\x22'
  | some '\x27' => lineQuoted '\x27'
  | _ =>
      let name ← takeWhile isNameChar
      if name.isEmpty then failure
      return String.ofList name

/-- The parts of a key behind those in `acc`. -/
def keyParts : Nat → List String → Reader (List String)
  | 0, _ => failure
  | steps + 1, acc => do
      blanks
      let part ← simpleKey
      blanks
      if (← accepts (char '.')) then keyParts steps (part :: acc)
      else return (part :: acc).reverse

/-- How many parts a key may have, and how deeply values may nest, plus one. -/
def depthLimit : Nat :=
  80

/-- A key: the path of its parts. -/
def key : Reader (List String) := do
  let parts ← keyParts (← enough) []
  if parts.length < depthLimit then return parts else failure

end Stencil.Toml.Reader
