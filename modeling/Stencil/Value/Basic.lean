import Stencil.Builtin
import Stencil.Calendar.Text
import Stencil.Fields
import Stencil.Url.Reading

/-!
# Values

What expressions compute with: the values of a context and of everything that expressions make
from them.  Objects keep their fields in insertion order.
-/

namespace Stencil

open Calendar (Instant)

/-- A value. -/
inductive Value where
  | undefined
  | null
  | bool (b : Bool)
  | number (n : Binary64)
  | string (s : String)
  | array (items : List Value)
  | object (fields : List (String × Value))
  | date (t : Instant)
  | url (u : Url)
  | builtin (b : Builtin)

namespace Value

instance : Inhabited Value :=
  ⟨undefined⟩

/-- A natural number as a value. -/
def nat (n : Nat) : Value :=
  number (Binary64.ofNat n)

/-- An integer as a value. -/
def int (n : Int) : Value :=
  number (Binary64.ofInt n)

/-- A character as a value. -/
def char (c : Char) : Value :=
  string (String.ofList [c])

/-- A text as a value. -/
def chars (s : List Char) : Value :=
  string (String.ofList s)

/-- The two values without properties. -/
def isNullish : Value → Bool
  | undefined | null => true
  | _ => false

mutual

/-- The output form of a value.  The elements of an array stand between commas, and those without
properties leave nothing between them. -/
def text : Value → String
  | undefined => "undefined"
  | null => "null"
  | bool true => "true"
  | bool false => "false"
  | number n => n.toText
  | string s => s
  | array items => ",".intercalate (texts items)
  | object _ => "[object Object]"
  | date t => t.text
  | url u => u.href
  | builtin b => b.text

/-- The output forms of the elements of an array. -/
def texts : List Value → List String
  | [] => []
  | item :: rest => (if item.isNullish then "" else item.text) :: texts rest

end

/-- Whether a value counts as true in a condition. -/
def isTruthy : Value → Bool
  | undefined | null => false
  | bool b => b
  | number n => !n.isZero && !n.isNaN
  | string s => s ≠ ""
  | _ => true

/-- The name of a value's kind. -/
def kindName : Value → String
  | undefined => "undefined"
  | bool _ => "boolean"
  | number _ => "number"
  | string _ => "string"
  | builtin b => if b.isCallable then "function" else "object"
  | _ => "object"

/-- The number that a value converts to. -/
def toNumber : Value → Binary64
  | undefined => Binary64.nan
  | null => Binary64.zero
  | bool b => Binary64.ofNat b.toNat
  | number n => n
  | string s => Number.ofText s
  | date t => Binary64.ofInt t.millis
  | array items => Number.ofText (array items).text
  | object _ | url _ | builtin _ => Binary64.nan

/-- Values that are made of others or stand for something outside the language. -/
def isCompound : Value → Bool
  | array _ | object _ | date _ | url _ | builtin _ => true
  | _ => false

/-- The primitive that a value converts to: compound values become their output form. -/
def toPrimitive (v : Value) : Value :=
  if v.isCompound then string v.text else v

/-! ## Properties -/

/-- The value of a property.  What has no such property gives `undefined`. -/
def property (v : Value) (key : String) : Value :=
  match v with
  | object fields => (Fields.find? key fields).getD undefined
  | array items =>
      if key = "length" then nat items.length
      else ((Number.readPosition? key).bind (items[·]?)).getD undefined
  | string s =>
      if key = "length" then nat s.toList.length
      else (((Number.readPosition? key).bind (s.toList[·]?)).map char).getD undefined
  | url u => ((u.part? key).map string).getD undefined
  | builtin b =>
      match b.constant? key with
      | some n => number n
      | none => if key = "name" && b.isCallable then string b.name else undefined
  | _ => undefined

/-- The value of a computed property. -/
def index (v key : Value) : Value :=
  v.property key.text

/-! ## Enumeration -/

/-- The number of a key that is an index of an array: decimal digits without leading zeros, below
the largest 32-bit word. -/
def arrayIndex? (key : String) : Option Nat :=
  let digits := key.toList
  if digits.isEmpty || (1 < digits.length && digits.head? = some '0') || !digits.all Text.isDigit
  then none
  else (some (Text.ofDigits 10 digits)).filter (· < 4294967295)

/-- A field put in front of those with a larger index. -/
def insertIndexed (index : Nat) (field : String × α) :
    List (Nat × String × α) → List (Nat × String × α)
  | [] => [(index, field)]
  | (i, other) :: rest =>
      if index < i then (index, field) :: (i, other) :: rest
      else (i, other) :: insertIndexed index field rest

/-- The fields whose keys are indices, with these, in increasing order. -/
def indexedFields : List (String × α) → List (Nat × String × α)
  | [] => []
  | (key, value) :: rest =>
      match arrayIndex? key with
      | some i => insertIndexed i (key, value) (indexedFields rest)
      | none => indexedFields rest

/-- Fields in the order of enumeration: first those whose keys are indices, in increasing order,
then all others in insertion order. -/
def enumerated (fields : List (String × α)) : List (String × α) :=
  (indexedFields fields).map Prod.snd ++ fields.filter fun f => (arrayIndex? f.1).isNone

/-- Elements with their positions from `start` on. -/
def positioned (start : Nat) : List Value → List (Value × Value)
  | [] => []
  | item :: rest => (nat start, item) :: positioned (start + 1) rest

/-- The entries of a value: positions and elements of an array, positions and characters of a
string, keys and values of an object.  Nothing else has entries. -/
def entries? : Value → Option (List (Value × Value))
  | array items => some (positioned 0 items)
  | object fields => some ((enumerated fields).map fun (key, value) => (string key, value))
  | string s => some (positioned 0 (s.toList.map char))
  | _ => none

end Value

end Stencil
