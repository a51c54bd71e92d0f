import Stencil.Text.CharClass

/-!
# Names

Which texts are names, and which names are reserved.  A reserved word is never a variable: it
cannot stand alone in an expression, bind a loop variable or be declared.
-/

namespace Stencil.Name

/-- Characters that a name can start with. -/
def isStart (c : Char) : Bool :=
  Text.isAlphabetic c || c == '_' || c == '$'

/-- Characters of a name after the first one. -/
def isContinue (c : Char) : Bool :=
  Text.isAlphanumeric c || c == '_' || c == '$'

/-- Whether a text is a single name. -/
def isName : List Char → Bool
  | [] => false
  | c :: rest => isStart c && rest.all isContinue

/-- The reserved words. -/
def reservedWords : List String :=
  ["in", "if", "else", "each", "for", "false", "true", "function", "instanceof", "null",
    "undefined", "let", "new", "this", "var", "while", "typeof"]

/-- Whether a name is reserved. -/
def isReserved (name : String) : Bool :=
  reservedWords.contains name

/-- Whether a text can name a variable. -/
def isVariable (s : List Char) : Bool :=
  isName s && !isReserved (String.ofList s)

theorem isContinue_of_isStart {c : Char} (start : isStart c = true) : isContinue c = true := by
  simp only [isStart, isContinue, Bool.or_eq_true] at *
  rcases start with (start | start) | start
  · exact .inl (.inl (Text.isAlphanumeric_of_isAlphabetic start))
  · exact .inl (.inr start)
  · exact .inr start

end Stencil.Name
