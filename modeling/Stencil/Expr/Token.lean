import Stencil.Number.Layout
import Stencil.Text.Quoted

/-!
# Tokens of expressions

Words that the grammar reserves, symbols, and the tokens they make up together with names and
literals.
-/

namespace Stencil

/-- A word with a meaning of its own. -/
inductive Keyword where
  | true
  | false
  | null
  | undefined
  | this
  | new
  | typeof
  | instanceof
  | in
  deriving DecidableEq

namespace Keyword

/-- The spelling of a keyword. -/
def text : Keyword → String
  | .true => "true"
  | .false => "false"
  | .null => "null"
  | .undefined => "undefined"
  | .this => "this"
  | .new => "new"
  | .typeof => "typeof"
  | .instanceof => "instanceof"
  | .in => "in"

/-- All keywords. -/
def all : List Keyword :=
  [.true, .false, .null, .undefined, .this, .new, .typeof, .instanceof, .in]

/-- The keyword of a spelling. -/
def ofText? (word : String) : Option Keyword :=
  all.find? fun k => k.text == word

@[simp]
theorem ofText?_text (k : Keyword) : ofText? k.text = some k := by
  cases k <;> rfl

end Keyword

/-- A mark of punctuation or an operator. -/
inductive Symbol where
  | strictEq
  | strictNe
  | looseEq
  | looseNe
  | le
  | ge
  | andAnd
  | orOr
  | not
  | lt
  | gt
  | plus
  | minus
  | star
  | slash
  | percent
  | leftParen
  | rightParen
  | leftBracket
  | rightBracket
  | comma
  | dot
  | question
  | colon
  deriving DecidableEq

namespace Symbol

/-- The spelling of a symbol. -/
def text : Symbol → String
  | strictEq => "==="
  | strictNe => "!=="
  | looseEq => "=="
  | looseNe => "!="
  | le => "<="
  | ge => ">="
  | andAnd => "&&"
  | orOr => "||"
  | not => "!"
  | lt => "<"
  | gt => ">"
  | plus => "+"
  | minus => "-"
  | star => "*"
  | slash => "/"
  | percent => "%"
  | leftParen => "("
  | rightParen => ")"
  | leftBracket => "["
  | rightBracket => "]"
  | comma => ","
  | dot => "."
  | question => "?"
  | colon => ":"

/-- The name by which messages call a symbol. -/
def name : Symbol → String
  | strictEq => "StrictEq"
  | strictNe => "StrictNe"
  | looseEq => "LooseEq"
  | looseNe => "LooseNe"
  | le => "Le"
  | ge => "Ge"
  | andAnd => "AndAnd"
  | orOr => "OrOr"
  | not => "Not"
  | lt => "Lt"
  | gt => "Gt"
  | plus => "Plus"
  | minus => "Minus"
  | star => "Star"
  | slash => "Slash"
  | percent => "Percent"
  | leftParen => "LParen"
  | rightParen => "RParen"
  | leftBracket => "LBracket"
  | rightBracket => "RBracket"
  | comma => "Comma"
  | dot => "Dot"
  | question => "Question"
  | colon => "Colon"

/-- All symbols, every one in front of those whose spelling it extends. -/
def all : List Symbol :=
  [strictEq, strictNe, looseEq, looseNe, le, ge, andAnd, orOr, not, lt, gt, plus, minus, star,
    slash, percent, leftParen, rightParen, leftBracket, rightBracket, comma, dot, question, colon]

/-- The longest symbol at the front of a text. -/
def ofFront? (s : List Char) : Option Symbol :=
  all.find? fun symbol => symbol.text.toList.isPrefixOf s

theorem text_toList_ne_nil (symbol : Symbol) : symbol.text.toList ≠ [] := by
  cases symbol <;> decide

end Symbol

/-- A token of an expression. -/
inductive Token where
  | number (n : Binary64)
  | string (s : String)
  | name (name : String)
  | directive (name : String)
  | keyword (keyword : Keyword)
  | symbol (symbol : Symbol)
  | stop
  deriving DecidableEq

namespace Token

/-- The token of a word: a keyword or else a name. -/
def ofWord (word : String) : Token :=
  match Keyword.ofText? word with
  | some k => keyword k
  | none => name word

/-- How messages describe a token. -/
def describe : Token → String
  | number n => "number " ++ n.toPlainText
  | string s => "string " ++ Text.quoted s
  | name s => "identifier '" ++ s ++ "'"
  | directive s => "'@" ++ s ++ "'"
  | keyword k => "'" ++ k.text ++ "'"
  | symbol s => s.name
  | stop => "end of expression"

end Token

end Stencil
