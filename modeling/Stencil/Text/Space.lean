import Stencil.Text.CharClass

/-!
# Blank ends

Removing white space from the ends of a text.
-/

namespace Stencil.Text

/-- The text without its leading white space. -/
def trimStart (s : List Char) : List Char :=
  s.dropWhile isSpace

/-- The text without its trailing white space. -/
def trimEnd (s : List Char) : List Char :=
  (s.reverse.dropWhile isSpace).reverse

/-- The text without white space at either end. -/
def trim (s : List Char) : List Char :=
  trimEnd (trimStart s)

/-- How many white-space characters a text starts with. -/
def leadingSpaces (s : List Char) : Nat :=
  (s.takeWhile isSpace).length

theorem trimStart_append_leading (s : List Char) :
    s.takeWhile isSpace ++ trimStart s = s :=
  List.takeWhile_append_dropWhile

end Stencil.Text
