import Stencil.Environment
import Stencil.Eval.Method
import Stencil.Eval.Operator

/-!
# Evaluating expressions

Reading a property of nothing gives `undefined`; calling what is not a function is a fault.
Operands, receivers, keys and arguments are evaluated from left to right, and the first fault ends
the evaluation.
-/

namespace Stencil.Expr

/-- Calls a value as a function. -/
def callValue (env : Environment) (calleeText : String) (args : Arguments) :
    Value → Outcome Value
  | .builtin b =>
      if b.isCallable then b.call env.now args else .error (.notFunction calleeText)
  | _ => .error (.notFunction calleeText)

/-- Calls a method of a value. -/
def callMethod (env : Environment) (calleeText : String) (receiver : Value) (name : String)
    (args : Arguments) : Outcome Value :=
  (receiver.method? env.now args name).getD (.error (.notFunction calleeText))

/-- Constructs with a value. -/
def constructWith (env : Environment) (targetText : String) (args : Arguments) :
    Value → Outcome Value
  | .builtin b =>
      if b.isConstructor then b.construct env.now args
      else .error (.notConstructor targetText)
  | _ => .error (.notConstructor targetText)

mutual

/-- The value of an expression. -/
def eval (env : Environment) : Expr → Outcome Value
  | literal value => .ok value
  | var name => .ok (env.lookup name)
  | loopIndex => .ok env.loopIndex
  | this => .ok .undefined
  | array items => do
      .ok (.array (← evalAll env items))
  | member object property => do
      .ok ((← eval env object).property property)
  | index object key => do
      let object ← eval env object
      let key ← eval env key
      .ok (object.index key)
  | call callee args =>
      match callee with
      | member object property => do
          let receiver ← eval env object
          let args ← evalAll env args
          callMethod env callee.text receiver property args
      | index object key => do
          let receiver ← eval env object
          let key ← eval env key
          let args ← evalAll env args
          callMethod env callee.text receiver key.text args
      | callee => do
          let function ← eval env callee
          let args ← evalAll env args
          callValue env callee.text args function
  | new target args => do
      let value ← eval env target
      let args ← evalAll env args
      constructWith env target.text args value
  | unary op operand => do
      .ok (op.apply (← eval env operand))
  | binary op left right => do
      let leftValue ← eval env left
      match op.shortcut? leftValue with
      | some value => .ok value
      | none => do
          let rightValue ← eval env right
          op.apply leftValue rightValue right.text
  | conditional test consequent alternate => do
      if (← eval env test).isTruthy then eval env consequent else eval env alternate

/-- The values of a list of expressions. -/
def evalAll (env : Environment) : List Expr → Outcome (List Value)
  | [] => .ok []
  | item :: rest => do
      let value ← eval env item
      let values ← evalAll env rest
      .ok (value :: values)

end

end Stencil.Expr
