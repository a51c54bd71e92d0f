import Stencil.Text.Quoted
import Stencil.Value.Basic

/-!
# Expressions

The syntax tree of an expression, its printed form, and the names that it mentions.
-/

namespace Stencil

/-- Operators in front of one operand. -/
inductive UnaryOp where
  | not
  | neg
  | plus
  | typeof
  deriving DecidableEq

/-- The spelling of an operator in front of its operand. -/
def UnaryOp.text : UnaryOp → String
  | not => "!"
  | neg => "-"
  | plus => "+"
  | typeof => "typeof "

/-- Operators between two operands. -/
inductive BinaryOp where
  | or
  | and
  | strictEq
  | strictNe
  | looseEq
  | looseNe
  | lt
  | le
  | gt
  | ge
  | instanceof
  | in
  | add
  | sub
  | mul
  | div
  | rem
  deriving DecidableEq

/-- The spelling of an operator between its operands. -/
def BinaryOp.text : BinaryOp → String
  | or => "||"
  | and => "&&"
  | strictEq => "==="
  | strictNe => "!=="
  | looseEq => "=="
  | looseNe => "!="
  | lt => "<"
  | le => "<="
  | gt => ">"
  | ge => ">="
  | instanceof => "instanceof"
  | .in => "in"
  | add => "+"
  | sub => "-"
  | mul => "*"
  | div => "/"
  | rem => "%"

/-- An expression. -/
inductive Expr where
  | literal (value : Value)
  | var (name : String)
  | loopIndex
  | this
  | array (items : List Expr)
  | member (object : Expr) (property : String)
  | index (object key : Expr)
  | call (callee : Expr) (args : List Expr)
  | new (target : Expr) (args : List Expr)
  | unary (op : UnaryOp) (operand : Expr)
  | binary (op : BinaryOp) (left right : Expr)
  | conditional (test consequent alternate : Expr)

namespace Expr

instance : Inhabited Expr :=
  ⟨this⟩

mutual

/-- The printed form of an expression, with parentheses around everything between two or three
operands. -/
def text : Expr → String
  | literal (.string s) => Text.quoted s
  | literal value => value.text
  | var name => name
  | loopIndex => "@index"
  | this => "this"
  | array items => "[" ++ ", ".intercalate (texts items) ++ "]"
  | member object property => object.text ++ "." ++ property
  | index object key => object.text ++ "[" ++ key.text ++ "]"
  | call callee args => callee.text ++ "(" ++ ", ".intercalate (texts args) ++ ")"
  | new target args => "new " ++ target.text ++ "(" ++ ", ".intercalate (texts args) ++ ")"
  | unary op operand => op.text ++ operand.text
  | binary op left right => "(" ++ left.text ++ " " ++ op.text ++ " " ++ right.text ++ ")"
  | conditional test consequent alternate =>
      "(" ++ test.text ++ " ? " ++ consequent.text ++ " : " ++ alternate.text ++ ")"

/-- The printed forms of a list of expressions. -/
def texts : List Expr → List String
  | [] => []
  | item :: rest => item.text :: texts rest

end

mutual

/-- The names that an expression mentions, in order and with repetitions.  The names of properties
are not among them. -/
def names : Expr → List String
  | literal _ | loopIndex | this => []
  | var name => [name]
  | array items => namesOfAll items
  | member object _ => object.names
  | index object key => object.names ++ key.names
  | call callee args => callee.names ++ namesOfAll args
  | new target args => target.names ++ namesOfAll args
  | unary _ operand => operand.names
  | binary _ left right => left.names ++ right.names
  | conditional test consequent alternate => test.names ++ consequent.names ++ alternate.names

/-- The names that a list of expressions mentions. -/
def namesOfAll : List Expr → List String
  | [] => []
  | item :: rest => item.names ++ namesOfAll rest

end

end Expr

end Stencil
