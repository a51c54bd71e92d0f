import Stencil.Text.CharClass

/-!
# Readers of TOML texts

A reader takes something off the front of a text or refuses it.  This module has the readers of
blanks, comments and line ends, out of which lines are put together.
-/

namespace Stencil.Toml

open Text

/-- Takes something off the front of a text, unless it refuses the text. -/
abbrev Reader (α : Type) :=
  StateT (List Char) Option α

namespace Reader

/-- The next character, which stays. -/
def peek : Reader (Option Char) := do
  return (← get).head?

/-- The next character, if a test holds of it. -/
def satisfying (test : Char → Bool) : Reader Char := fun s =>
  match s with
  | c :: rest => if test c then some (c, rest) else none
  | [] => none

/-- A given character. -/
def char (c : Char) : Reader Unit := do
  let _ ← satisfying (· = c)

/-- Given characters. -/
def word (chars : List Char) : Reader Unit := fun s =>
  if chars.isPrefixOf s then some ((), s.drop chars.length) else none

/-- The characters at the front of which a test holds. -/
def takeWhile (test : Char → Bool) : Reader (List Char) := fun s =>
  some (s.takeWhile test, s.dropWhile test)

/-- What a reader takes, or nothing if it refuses. -/
def optional (reader : Reader α) : Reader (Option α) :=
  (some <$> reader) <|> pure none

/-- Whether a reader takes something. -/
def accepts (reader : Reader α) : Reader Bool := do
  return (← optional reader).isSome

/-- Whether the text is used up. -/
def atEnd : Reader Bool := do
  return (← get).isEmpty

/-- A count of steps that is enough for a loop in which every step takes a character. -/
def enough : Reader Nat := do
  return (← get).length + 1

/-! ## Blanks, comments and line ends -/

/-- Characters that may stand for themselves in comments and strings. -/
def isTextChar (c : Char) : Bool :=
  c = '\t' || (0x20 ≤ c.toNat && c ≠ '\x7f')

/-- Spaces and tabs. -/
def blanks : Reader Unit := do
  let _ ← takeWhile fun c => c = ' ' || c = '\t'

/-- A line break: a line feed, with or without a carriage return. -/
def newline : Reader Unit :=
  char '\n' <|> word ['\r', '\n']

/-- A comment, up to the line break. -/
def comment : Reader Unit := do
  char '#'
  let _ ← takeWhile isTextChar

/-- The rest of a line behind its content. -/
def lineEnd : Reader Unit := do
  blanks
  let _ ← optional comment
  if !(← atEnd) then newline

/-- Blanks, line breaks and comments. -/
def spaceLoop : Nat → Reader Unit
  | 0 => pure ()
  | steps + 1 => do
      blanks
      let commented ← accepts comment
      if (← accepts newline) then spaceLoop steps
      else if commented then failure

/-- Blanks, line breaks and comments between the elements of an array. -/
def space : Reader Unit := do
  spaceLoop (← enough)

end Reader

end Stencil.Toml
