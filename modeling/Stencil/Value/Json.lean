import Stencil.Json.Basic
import Stencil.Value.Basic

/-!
# Values and JSON

Every JSON value is a value.  In the other direction `undefined` and functions have no JSON form:
objects leave them out, and arrays hold `null` in their place.
-/

namespace Stencil.Value

mutual

/-- The value of a JSON value. -/
def ofJson : Json → Value
  | .null => null
  | .bool b => bool b
  | .number n => number n
  | .string s => string s
  | .array items => array (ofJsonItems items)
  | .object fields => object (ofJsonFields fields)

/-- The values of the elements of a JSON array. -/
def ofJsonItems : List Json → List Value
  | [] => []
  | item :: rest => ofJson item :: ofJsonItems rest

/-- The values of the fields of a JSON object. -/
def ofJsonFields : List (String × Json) → List (String × Value)
  | [] => []
  | (key, value) :: rest => (key, ofJson value) :: ofJsonFields rest

end

/-- The JSON form of a number: whole numbers below `2 ^ 53` lose the sign of zero, and numbers that
are not finite become `null`. -/
def jsonNumber (n : Binary64) : Json :=
  if !n.isFinite then .null
  else if n.isInteger && n.toInt.natAbs < Nat.pow 2 53 then .number (Binary64.ofInt n.toInt)
  else .number n

mutual

/-- The JSON form of a value, if it has one. -/
def toJson? : Value → Option Json
  | undefined => none
  | null => some .null
  | bool b => some (.bool b)
  | number n => some (jsonNumber n)
  | string s => some (.string s)
  | array items => some (.array (toJsonItems items))
  | object fields => some (.object (toJsonFields fields))
  | date t => some (.string t.isoText)
  | url u => some (.string u.href)
  | builtin b => if b.isCallable then none else some (.object [])

/-- The JSON forms of the elements of an array. -/
def toJsonItems : List Value → List Json
  | [] => []
  | item :: rest => (toJson? item).getD .null :: toJsonItems rest

/-- The JSON forms of the fields of an object that have one. -/
def toJsonFields : List (String × Value) → List (String × Json)
  | [] => []
  | (key, value) :: rest =>
      match toJson? value with
      | some json => (key, json) :: toJsonFields rest
      | none => toJsonFields rest

end

end Stencil.Value
