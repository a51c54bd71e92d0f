/-!
# Markup escaping

Output text may stand anywhere in a document, also inside a quoted or bare attribute.  The seven
characters that could end such a place are written as entities.
-/

namespace Stencil.Text

/-- The output form of one character. -/
def escapeChar (c : Char) : List Char :=
  match c with
  | '&' => "&amp;".toList
  | '<' => "&lt;".toList
  | '>' => "&gt;".toList
  | '\x22' => "&quot;".toList
  | '\x27' => "&#x27;".toList
  | '\x60' => "&#x60;".toList
  | '=' => "&#x3D;".toList
  | c => [c]

/-- The output form of a text. -/
def escapeMarkup (s : List Char) : List Char :=
  s.flatMap escapeChar

/-- The output form of a string. -/
def escapeHtml (s : String) : String :=
  String.ofList (escapeMarkup s.toList)

@[simp]
theorem escapeMarkup_nil : escapeMarkup [] = [] :=
  rfl

@[simp]
theorem escapeMarkup_cons (c : Char) (s : List Char) :
    escapeMarkup (c :: s) = escapeChar c ++ escapeMarkup s :=
  rfl

@[simp]
theorem escapeMarkup_append (s t : List Char) :
    escapeMarkup (s ++ t) = escapeMarkup s ++ escapeMarkup t :=
  List.flatMap_append

end Stencil.Text
