import Stencil.Eval.Namespace
import Stencil.Eval.StringMethod
import Stencil.Expr.Basic
import Stencil.Value.Equality

/-!
# Operators

What operators compute from the values of their operands.
-/

namespace Stencil

open Value

/-- An operator in front of its operand. -/
def UnaryOp.apply (op : UnaryOp) (v : Value) : Value :=
  match op with
  | not => bool !v.isTruthy
  | neg => number v.toNumber.neg
  | plus => number v.toNumber
  | typeof => string v.kindName

/-- A sum: a text if either operand is one after conversion, and otherwise a number. -/
def Value.add (a b : Value) : Value :=
  match a.toPrimitive, b.toPrimitive with
  | string s, other => string (s ++ other.text)
  | other, string s => string (other.text ++ s)
  | a, b => number (a.toNumber.add b.toNumber)

/-- The order of two values: that of texts if both are, and otherwise that of numbers.  What is not
a number has no order. -/
def Value.order? (a b : Value) : Option Ordering :=
  match a.toPrimitive, b.toPrimitive with
  | string s, string t => some (StringMethod.order s t)
  | a, b =>
      let x := a.toNumber
      let y := b.toNumber
      if x.lt y then some .lt
      else if y.lt x then some .gt
      else if x.beq y then some .eq
      else none

/-- Whether an array or an object has a key. -/
def Value.hasKey? (key : String) : Value → Option Bool
  | object fields => some (Fields.contains key fields)
  | array items =>
      let isPosition := (Number.readPosition? key).map fun i => decide (i < items.length)
      some (key == "length" || isPosition.getD false)
  | _ => none

namespace BinaryOp

/-- The operand that decides alone, for the operators that may leave their right operand out. -/
def shortcut? (op : BinaryOp) (left : Value) : Option Value :=
  match op with
  | or => if left.isTruthy then some left else none
  | and => if left.isTruthy then none else some left
  | _ => none

/-- An operator between two operands.  The printed form of the right one is for messages. -/
def apply (op : BinaryOp) (left right : Value) (rightText : String) : Outcome Value :=
  match op with
  | or | and => .ok right
  | strictEq => .ok (bool (left.strictEq right))
  | strictNe => .ok (bool !left.strictEq right)
  | looseEq => .ok (bool (left.looseEq right))
  | looseNe => .ok (bool !left.looseEq right)
  | lt => .ok (bool (left.order? right = some .lt))
  | le => .ok (bool (left.order? right = some .lt || left.order? right = some .eq))
  | gt => .ok (bool (left.order? right = some .gt))
  | ge => .ok (bool (left.order? right = some .gt || left.order? right = some .eq))
  | instanceof =>
      match right with
      | builtin b => (b.hasInstance left).map .bool
      | _ => .error (.badInstanceofTarget (some rightText))
  | .in =>
      match right.hasKey? left.text with
      | some present => .ok (bool present)
      | none => .error (.badInTarget left.text rightText)
  | add => .ok (left.add right)
  | sub => .ok (number (left.toNumber.sub right.toNumber))
  | mul => .ok (number (left.toNumber.mul right.toNumber))
  | div => .ok (number (left.toNumber.div right.toNumber))
  | rem => .ok (number (left.toNumber.rem right.toNumber))

end BinaryOp

end Stencil
