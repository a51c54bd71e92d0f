import Stencil.Expr.Basic
import Stencil.Expr.Name
import Stencil.Expr.Token

/-!
# The grammar of expressions

Which sequences of tokens spell which expressions, and how many levels a derivation has open at
once.  The rules say nothing about how to find a derivation.
-/

namespace Stencil

/-- The token that an operator in front of an operand is written as. -/
def UnaryOp.token : UnaryOp → Token
  | not => .symbol .not
  | neg => .symbol .minus
  | plus => .symbol .plus
  | typeof => .keyword .typeof

/-- The token that an operator between two operands is written as. -/
def BinaryOp.token : BinaryOp → Token
  | or => .symbol .orOr
  | and => .symbol .andAnd
  | strictEq => .symbol .strictEq
  | strictNe => .symbol .strictNe
  | looseEq => .symbol .looseEq
  | looseNe => .symbol .looseNe
  | lt => .symbol .lt
  | le => .symbol .le
  | gt => .symbol .gt
  | ge => .symbol .ge
  | instanceof => .keyword .instanceof
  | .in => .keyword .in
  | add => .symbol .plus
  | sub => .symbol .minus
  | mul => .symbol .star
  | div => .symbol .slash
  | rem => .symbol .percent

/-- How tightly an operator binds its operands: disjunction, conjunction, equality, comparison,
sums and products. -/
def BinaryOp.tightness : BinaryOp → Nat
  | or => 0
  | and => 1
  | strictEq | strictNe | looseEq | looseNe => 2
  | lt | le | gt | ge | instanceof | .in => 3
  | add | sub => 4
  | mul | div | rem => 5

namespace Expr

/-- The tokens that are expressions of their own. -/
inductive IsAtom : Token → Expr → Prop where
  | number (n : Binary64) : IsAtom (.number n) (.literal (.number n))
  | string (s : String) : IsAtom (.string s) (.literal (.string s))
  | true : IsAtom (.keyword .true) (.literal (.bool Bool.true))
  | false : IsAtom (.keyword .false) (.literal (.bool Bool.false))
  | null : IsAtom (.keyword .null) (.literal .null)
  | undefined : IsAtom (.keyword .undefined) (.literal .undefined)
  | this : IsAtom (.keyword .this) .this
  | var {name : String} : Name.isReserved name = Bool.false → IsAtom (.name name) (.var name)
  | loopIndex : IsAtom (.directive "index") .loopIndex

/-- The tokens that name a property: any name, reserved or not, and any keyword. -/
inductive IsProperty : Token → String → Prop where
  | name (name : String) : IsProperty (.name name) name
  | keyword (k : Keyword) : IsProperty (.keyword k) k.text

/-- What a sequence of tokens can be. -/
inductive Phrase where
  /-- A token of its own, an expression in parentheses or a list in brackets. -/
  | primary
  /-- A primary, or a construction with arguments, and the steps behind it.  Calls are steps only
  if they are allowed. -/
  | chain (calls : Bool)
  /-- A construction without arguments. -/
  | construction
  /-- A chain with or without calls, or a construction without arguments. -/
  | operand
  /-- Operands and operators that bind at least so tightly. -/
  | operation (tightness : Nat)
  /-- Any expression. -/
  | conditional
  /-- Expressions between commas, as the array that they make up. -/
  | items

/-- The phrases of the grammar, the expressions that they spell, and their heights.  A conditional
that may be its test alone, an operator in front, a construction and an array each open a level;
the height is the greatest number of levels that are open at once. -/
inductive Derives : Phrase → Nat → List Token → Expr → Prop where
  | atom {token : Token} {e : Expr} :
      IsAtom token e →
      Derives .primary 0 [token] e
  | parentheses {height : Nat} {inner : List Token} {e : Expr} :
      Derives .conditional height inner e →
      Derives .primary height (.symbol .leftParen :: inner ++ [.symbol .rightParen]) e
  | array {height : Nat} {inner : List Token} {items : List Expr} :
      Derives .items height inner (.array items) →
      Derives .primary (height + 1) (.symbol .leftBracket :: inner ++ [.symbol .rightBracket])
        (.array items)
  | primary {height : Nat} {tokens : List Token} {e : Expr} {calls : Bool} :
      Derives .primary height tokens e →
      Derives (.chain calls) height tokens e
  | newWith {height argsHeight : Nat} {tokens inner : List Token} {target : Expr}
      {args : List Expr} {calls : Bool} :
      Derives (.chain false) height tokens target →
      Derives .items argsHeight inner (.array args) →
      Derives (.chain calls) (max height argsHeight + 1)
        (.keyword .new :: tokens ++ .symbol .leftParen :: inner ++ [.symbol .rightParen])
        (.new target args)
  | member {height : Nat} {tokens : List Token} {object : Expr} {calls : Bool} {token : Token}
      {property : String} :
      Derives (.chain calls) height tokens object →
      IsProperty token property →
      Derives (.chain calls) height (tokens ++ [.symbol .dot, token]) (.member object property)
  | index {height keyHeight : Nat} {tokens inner : List Token} {object key : Expr} {calls : Bool} :
      Derives (.chain calls) height tokens object →
      Derives .conditional keyHeight inner key →
      Derives (.chain calls) (max height keyHeight)
        (tokens ++ .symbol .leftBracket :: inner ++ [.symbol .rightBracket]) (.index object key)
  | call {height argsHeight : Nat} {tokens inner : List Token} {callee : Expr}
      {args : List Expr} :
      Derives (.chain true) height tokens callee →
      Derives .items argsHeight inner (.array args) →
      Derives (.chain true) (max height argsHeight)
        (tokens ++ .symbol .leftParen :: inner ++ [.symbol .rightParen]) (.call callee args)
  | newChain {height : Nat} {tokens : List Token} {target : Expr} :
      Derives (.chain false) height tokens target →
      Derives .construction (height + 1) (.keyword .new :: tokens) (.new target [])
  | newConstruction {height : Nat} {tokens : List Token} {target : Expr} :
      Derives .construction height tokens target →
      Derives .construction (height + 1) (.keyword .new :: tokens) (.new target [])
  | chain {height : Nat} {tokens : List Token} {e : Expr} :
      Derives (.chain true) height tokens e →
      Derives .operand height tokens e
  | construction {height : Nat} {tokens : List Token} {e : Expr} :
      Derives .construction height tokens e →
      Derives .operand height tokens e
  | operand {height : Nat} {tokens : List Token} {e : Expr} :
      Derives .operand height tokens e →
      Derives (.operation 6) height tokens e
  | unary {height : Nat} {tokens : List Token} {operand : Expr} (op : UnaryOp) :
      Derives (.operation 6) height tokens operand →
      Derives (.operation 6) (height + 1) (op.token :: tokens) (.unary op operand)
  | tighter {tightness height : Nat} {tokens : List Token} {e : Expr} :
      tightness < 6 →
      Derives (.operation (tightness + 1)) height tokens e →
      Derives (.operation tightness) height tokens e
  | binary {height rightHeight : Nat} {tokens others : List Token} {left right : Expr}
      (op : BinaryOp) :
      Derives (.operation op.tightness) height tokens left →
      Derives (.operation (op.tightness + 1)) rightHeight others right →
      Derives (.operation op.tightness) (max height rightHeight) (tokens ++ op.token :: others)
        (.binary op left right)
  | test {height : Nat} {tokens : List Token} {e : Expr} :
      Derives (.operation 0) height tokens e →
      Derives .conditional (height + 1) tokens e
  | conditional {height thenHeight elseHeight : Nat} {tokens yes no : List Token}
      {test consequent alternate : Expr} :
      Derives (.operation 0) height tokens test →
      Derives .conditional thenHeight yes consequent →
      Derives .conditional elseHeight no alternate →
      Derives .conditional (max height (max thenHeight elseHeight) + 1)
        (tokens ++ .symbol .question :: yes ++ .symbol .colon :: no)
        (.conditional test consequent alternate)
  | noItems :
      Derives .items 0 [] (.array [])
  | lastItem {height : Nat} {tokens : List Token} {e : Expr} :
      Derives .conditional height tokens e →
      Derives .items height tokens (.array [e])
  | moreItems {height restHeight : Nat} {tokens others : List Token} {e : Expr}
      {items : List Expr} :
      Derives .conditional height tokens e →
      Derives .items restHeight others (.array items) →
      Derives .items (max height restHeight) (tokens ++ .symbol .comma :: others)
        (.array (e :: items))

end Expr

end Stencil
