import Stencil.Eval.Argument
import Stencil.Eval.Fault
import Stencil.Eval.Namespace
import Stencil.Eval.StringMethod
import Stencil.Number.Fixed
import Stencil.Value.Equality

/-!
# Methods

Calling a method of a value.  What a value can do depends on its kind alone.
-/

/-! ## Methods of arrays

No method changes its array: those that build one give a new array.
-/

namespace Stencil.ArrayMethod

/-- First position of an element that equals the first argument, from the second argument on. -/
def indexOf? (items : List Value) (args : Arguments) : Option Nat :=
  let start := (args.whole 1 (.finite 0)).relative items.length
  ((items.drop start).findIdx? (·.strictEq (args.value 0))).map (· + start)

/-- Last position of an element that equals the first argument. -/
def lastIndexOf? (items : List Value) (args : Arguments) : Option Nat :=
  (items.reverse.findIdx? (·.strictEq (args.value 0))).map fun i => items.length - 1 - i

/-- Equality that also holds between two values that are not numbers. -/
def sameOrNaN (a b : Value) : Bool :=
  match a, b with
  | .number x, .number y => x.beq y || (x.isNaN && y.isNaN)
  | a, b => a.strictEq b

/-- The output forms of the elements with a separator between them. -/
def join (items : List Value) (args : Arguments) : String :=
  (args.textOr 0 ",").intercalate (Value.texts items)

/-- The elements between two positions that may count from the end. -/
def slice (items : List Value) (args : Arguments) : List Value :=
  (items.take ((args.whole 1 (.infinite false)).relative items.length)).drop
    ((args.whole 0 (.finite 0)).relative items.length)

/-- The element at a position that may count from the end. -/
def at? (items : List Value) (args : Arguments) : Option Value :=
  (((args.whole 0 (.finite 0)).fromEnd items.length).position? items.length).bind (items[·]?)

/-- The elements that an argument adds to an array: those of an array, or itself. -/
def spread : Value → List Value
  | .array items => items
  | v => [v]

/-- A position that was searched for. -/
def found : Option Nat → Value
  | some i => .nat i
  | none => .int (-1)

/-- The method of a name, if arrays have it. -/
def call? (items : List Value) (args : Arguments) (name : String) : Option Value :=
  match name with
  | "indexOf" => some (found (indexOf? items args))
  | "lastIndexOf" => some (found (lastIndexOf? items args))
  | "includes" => some (.bool (items.any (sameOrNaN · (args.value 0))))
  | "join" => some (.string (join items args))
  | "slice" => some (.array (slice items args))
  | "concat" => some (.array (items ++ args.flatMap spread))
  | "reverse" | "toReversed" => some (.array items.reverse)
  | "at" => some ((at? items args).getD .undefined)
  | "toString" => some (.string (Value.array items).text)
  | "valueOf" => some (.array items)
  | _ => none

end Stencil.ArrayMethod

/-! ## Methods of numbers

Counts of digits and radices have ranges of their own; an argument outside fails.
-/

namespace Stencil.NumberMethod

/-- A whole number within a range. -/
def inRange? (least most : Nat) : Whole → Option Nat
  | .finite n => if least ≤ n && n ≤ most then some n.toNat else none
  | .infinite _ => none

/-- A number with a fixed count of fraction digits.  Numbers from `10 ^ 21` on keep their output
form. -/
def toFixed (x : Binary64) (args : Arguments) : Outcome Value :=
  match inRange? 0 100 (args.whole 0 (.finite 0)) with
  | none => .error .badFixedDigits
  | some places =>
      .ok (.string (if x.isFinite && x.abs.lt (.ofNat (Nat.pow 10 21)) then x.toFixed places
        else x.toText))

/-- A number in a radix. -/
def toRadix (x : Binary64) (args : Arguments) : Outcome Value :=
  match inRange? 2 36 (args.whole 0 (.finite 10)) with
  | none => .error .badRadix
  | some radix => .ok (.string (x.toRadix radix))

/-- The method of a name, if numbers have it. -/
def call? (x : Binary64) (args : Arguments) (name : String) : Option (Outcome Value) :=
  match name with
  | "toFixed" => some (toFixed x args)
  | "toString" => some (toRadix x args)
  | "toLocaleString" => some (.ok (.string x.toGrouped))
  | "valueOf" => some (.ok (.number x))
  | _ => none

end Stencil.NumberMethod

/-! ## Methods of values -/

namespace Stencil.Value

open Calendar (Instant)

/-- The method of a name, if a value has it. -/
def method? (now : Instant) (args : Arguments) (name : String) : Value → Option (Outcome Value)
  | v@undefined | v@null => some (.error (.memberOfNothing v.text name))
  | builtin b => some (b.callMember now args name)
  | string s => StringMethod.call? s args name
  | array items => (ArrayMethod.call? items args name).map .ok
  | number n => NumberMethod.call? n args name
  | bool b =>
      match name with
      | "toString" => some (.ok (string (bool b).text))
      | "valueOf" => some (.ok (bool b))
      | _ => none
  | date t => (DateMethod.call? t name).map .ok
  | url u =>
      match name with
      | "toString" | "toJSON" => some (.ok (string u.href))
      | _ => none
  | object fields =>
      match name with
      | "hasOwnProperty" => some (.ok (bool (Fields.contains (args.text 0) fields)))
      | "toString" => some (.ok (string (object fields).text))
      | "valueOf" => some (.ok (object fields))
      | _ => none

end Stencil.Value
