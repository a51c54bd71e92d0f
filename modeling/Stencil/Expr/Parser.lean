import Stencil.Expr.Basic
import Stencil.Expr.Parsed

/-!
# Parsing expressions

The grammar by falling breadth: the conditional, the operators between two operands from loosest to
tightest, the operators in front of one operand, member access and calls, and what stands alone.
A subexpression in parentheses, brackets or an argument list, the operand of an operator in front,
what follows `new` and the branches of a conditional are one level deeper, and levels are limited.
-/

namespace Stencil

/-- The operator between two operands that a token stands for. -/
def BinaryOp.ofToken? : Token → Option BinaryOp
  | .symbol .orOr => some .or
  | .symbol .andAnd => some .and
  | .symbol .strictEq => some .strictEq
  | .symbol .strictNe => some .strictNe
  | .symbol .looseEq => some .looseEq
  | .symbol .looseNe => some .looseNe
  | .symbol .lt => some .lt
  | .symbol .le => some .le
  | .symbol .gt => some .gt
  | .symbol .ge => some .ge
  | .keyword .instanceof => some .instanceof
  | .keyword .in => some .in
  | .symbol .plus => some .add
  | .symbol .minus => some .sub
  | .symbol .star => some .mul
  | .symbol .slash => some .div
  | .symbol .percent => some .rem
  | _ => none

/-- The operators between two operands, loosest first.  Operators of one row associate to the
left. -/
def BinaryOp.rows : List (List BinaryOp) :=
  [[or], [and], [strictEq, strictNe, looseEq, looseNe], [lt, le, gt, ge, instanceof, .in],
    [add, sub], [mul, div, rem]]

/-- The operator in front of an operand that a token stands for. -/
def UnaryOp.ofToken? : Token → Option UnaryOp
  | .symbol .not => some .not
  | .symbol .minus => some .neg
  | .symbol .plus => some .plus
  | .keyword .typeof => some .typeof
  | _ => none

namespace Expr

/-- The parsers that go one level deeper. -/
structure Level where
  /-- A subexpression. -/
  nested : Parser Expr
  /-- What follows an operator in front. -/
  operand : Parser Expr
  /-- What follows `new`. -/
  construction : Parser Expr
  /-- What follows an opening bracket that stands alone. -/
  items : Parser (List Expr)

/-- The name of a property: a name or any keyword. -/
def propertyName? : Token → Option String
  | .name name => some name
  | .keyword k => some k.text
  | _ => none

/-- The expression of a token that stands alone. -/
def atom? : Token → Option Expr
  | .number n => some (literal (.number n))
  | .string s => some (literal (.string s))
  | .keyword .true => some (literal (.bool true))
  | .keyword .false => some (literal (.bool false))
  | .keyword .null => some (literal .null)
  | .keyword .undefined => some (literal .undefined)
  | .keyword .this => some this
  | .name name => if Name.isReserved name then none else some (var name)
  | .directive name => if name = "index" then some loopIndex else none
  | _ => none

/-- Why a token cannot begin an expression. -/
def atomFault : Token → Fault
  | .name name => .reservedWord name
  | .directive name => .unknownDirective name
  | token => .unexpected token

/-- What stands alone: a literal, a name, an expression in parentheses or a list in brackets. -/
def primary (l : Level) : Parser Expr := fun ts =>
  match takeSymbol? .leftParen ts with
  | some paren => do
      let inner ← l.nested paren.rest
      let close ← expect .rightParen inner.rest
      .ok ((close.withResult inner.result).widen
        (Nat.le_of_lt (Nat.lt_trans inner.rest_lt paren.rest_lt)))
  | none =>
      match takeSymbol? .leftBracket ts with
      | some bracket => do
          let items ← l.items bracket.rest
          .ok ((items.withResult (array items.result)).widen (Nat.le_of_lt bracket.rest_lt))
      | none =>
          match take? atom? ts with
          | some atom => .ok atom
          | none => faultAt ts atomFault

/-- Whether a token is `new`. -/
def isNew? (t : Token) : Option Unit :=
  if t = .keyword .new then some () else none

/-- What member access and calls apply to. -/
def base (l : Level) : Parser Expr := fun ts =>
  match take? isNew? ts with
  | some mark => do
      let construction ← l.construction mark.rest
      .ok (construction.widen (Nat.le_of_lt mark.rest_lt))
  | none => primary l ts

/-- Access to a member by name or by a computed key. -/
def accessStep (l : Level) (object : Expr) (ts : List Lexeme) :
    Except (Located Fault) (Option (Parsed Expr ts.length)) :=
  match takeSymbol? .dot ts with
  | some dot =>
      match take? propertyName? dot.rest with
      | some property =>
          .ok (some ((property.withResult (member object property.result)).widen
            (Nat.le_of_lt dot.rest_lt)))
      | none => faultAt dot.rest .propertyExpected
  | none =>
      match takeSymbol? .leftBracket ts with
      | some bracket => do
          let key ← l.nested bracket.rest
          let close ← expect .rightBracket key.rest
          .ok (some ((close.withResult (index object key.result)).widen
            (Nat.le_of_lt (Nat.lt_trans key.rest_lt bracket.rest_lt))))
      | none => .ok none

/-- Access to a member, or a call. -/
def postfixStep (l : Level) (object : Expr) (ts : List Lexeme) :
    Except (Located Fault) (Option (Parsed Expr ts.length)) :=
  match takeSymbol? .leftParen ts with
  | some paren => do
      let args ← listUntil .rightParen l.nested paren.rest
      .ok (some ((args.withResult (call object args.result)).widen (Nat.le_of_lt paren.rest_lt)))
  | none => accessStep l object ts

/-- Member access and calls. -/
def postfixed (l : Level) : Parser Expr :=
  extending (base l) (postfixStep l)

/-- The target and the arguments of a construction.  Member access belongs to the target; the
argument list may be missing. -/
def construction (l : Level) : Parser Expr := fun ts => do
  let target ← extending (base l) (accessStep l) ts
  match takeSymbol? .leftParen target.rest with
  | some paren => do
      let args ← listUntil .rightParen l.nested paren.rest
      .ok ((args.withResult (new target.result args.result)).widen
        (Nat.le_of_lt (Nat.lt_trans paren.rest_lt target.rest_lt)))
  | none => .ok (target.withResult (new target.result []))

/-- Operators in front of an operand. -/
def unaries (l : Level) : Parser Expr := fun ts =>
  match take? UnaryOp.ofToken? ts with
  | some op => do
      let operand ← l.operand op.rest
      .ok ((operand.withResult (unary op.result operand.result)).widen (Nat.le_of_lt op.rest_lt))
  | none => postfixed l ts

/-- Which operator of a row a token stands for. -/
def operatorOf? (row : List BinaryOp) (t : Token) : Option BinaryOp :=
  (BinaryOp.ofToken? t).filter (row.contains ·)

/-- One more operator of a row with its right operand. -/
def binaryStep (row : List BinaryOp) (operand : Parser Expr) (left : Expr) (ts : List Lexeme) :
    Except (Located Fault) (Option (Parsed Expr ts.length)) :=
  match take? (operatorOf? row) ts with
  | some op => do
      let right ← operand op.rest
      .ok (some ((right.withResult (binary op.result left right.result)).widen
        (Nat.le_of_lt op.rest_lt)))
  | none => .ok none

/-- Operators between operands, by rows. -/
def binaries (l : Level) : List (List BinaryOp) → Parser Expr
  | [] => unaries l
  | row :: tighter => extending (binaries l tighter) (binaryStep row (binaries l tighter))

/-- A conditional, or its test alone. -/
def conditionals (l : Level) : Parser Expr := fun ts => do
  let test ← binaries l BinaryOp.rows ts
  match takeSymbol? .question test.rest with
  | some mark => do
      let consequent ← l.nested mark.rest
      let colon ← expect .colon consequent.rest
      let alternate ← l.nested colon.rest
      .ok ((alternate.withResult
        (conditional test.result consequent.result alternate.result)).widen
        (Nat.le_of_lt (Nat.lt_trans colon.rest_lt (Nat.lt_trans consequent.rest_lt
          (Nat.lt_trans mark.rest_lt test.rest_lt)))))
  | none => .ok test

/-- The parsers with a number of levels left. -/
def level : Nat → Level
  | 0 =>
      { nested := fun ts => faultAt ts fun _ => .tooDeep
        operand := fun ts => faultAt ts fun _ => .tooDeep
        construction := fun ts => faultAt ts fun _ => .tooDeep
        items := fun ts => faultAt ts fun _ => .tooDeep }
  | depth + 1 =>
      let deeper := level depth
      { nested := conditionals deeper
        operand := unaries deeper
        construction := construction deeper
        items := listUntil .rightBracket deeper.nested }

/-- How many levels an expression may have. -/
def levelLimit : Nat :=
  128

/-- The expression that a whole list of tokens spells. -/
def ofLexemes (ts : List Lexeme) : Except (Located Fault) Expr := do
  let parsed ← (level levelLimit).nested ts
  if (current parsed.rest).item = .stop then .ok parsed.result
  else faultAt parsed.rest .unexpected

/-- The expression that a text spells. -/
def parse (source : String) : Except (Located Fault) Expr := do
  ofLexemes (← scan source)

end Expr

end Stencil
