import Stencil.Json.Basic
import Stencil.Toml.Moment

/-!
# TOML values

The values of the format and their JSON form.  Numbers that are not finite have none and become
null, and a moment is an object that holds its text.
-/

namespace Stencil.Toml

/-- A value. -/
inductive Value where
  | string (s : String)
  | integer (n : Int)
  | float (n : Binary64)
  | bool (b : Bool)
  | moment (m : Moment)
  | array (items : List Value)
  | table (fields : List (String × Value))

/-- The key under which the JSON form of a moment holds its text. -/
def momentKey : String :=
  "$__toml_private_datetime"

/-- The fields of the JSON form of a moment. -/
def Moment.jsonFields (moment : Moment) : List (String × Json) :=
  [(momentKey, .string (String.ofList moment.text))]

namespace Value

mutual

/-- The JSON form of a value. -/
def toJson : Value → Json
  | string s => .string s
  | integer n => .number (.ofInt n)
  | float n => if n.isFinite then .number n else .null
  | bool b => .bool b
  | moment m => .object m.jsonFields
  | array items => .array (toJsonItems items)
  | table fields => .object (toJsonFields fields)

/-- The JSON forms of the elements of an array. -/
def toJsonItems : List Value → List Json
  | [] => []
  | item :: rest => toJson item :: toJsonItems rest

/-- The JSON forms of the fields of a table. -/
def toJsonFields : List (String × Value) → List (String × Json)
  | [] => []
  | (key, value) :: rest => (key, toJson value) :: toJsonFields rest

end

end Value

end Stencil.Toml
