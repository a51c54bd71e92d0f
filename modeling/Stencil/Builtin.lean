import Stencil.Number.Reading

/-!
# Built-in globals

The namespaces, constructors and functions that expressions can use without a context.  Every
built-in has a name; a namespace is a plain object, and everything else can be called.
-/

namespace Stencil

/-- A built-in global. -/
inductive Builtin where
  | array
  | date
  | intl
  | json
  | math
  | number
  | object
  | url
  | encodeUri
  | encodeUriComponent
  | decodeUri
  | decodeUriComponent
  | escape
  | unescape
  deriving DecidableEq

namespace Builtin

/-- The name of a built-in. -/
def name : Builtin → String
  | array => "Array"
  | date => "Date"
  | intl => "Intl"
  | json => "JSON"
  | math => "Math"
  | number => "Number"
  | object => "Object"
  | url => "URL"
  | encodeUri => "encodeURI"
  | encodeUriComponent => "encodeURIComponent"
  | decodeUri => "decodeURI"
  | decodeUriComponent => "decodeURIComponent"
  | escape => "escape"
  | unescape => "unescape"

/-- All built-ins. -/
def all : List Builtin :=
  [array, date, intl, json, math, number, object, url, encodeUri, encodeUriComponent, decodeUri,
    decodeUriComponent, escape, unescape]

/-- The built-in of a name. -/
def ofName? (name : String) : Option Builtin :=
  all.find? fun b => b.name == name

/-- Namespaces cannot be called. -/
def isCallable : Builtin → Bool
  | math | json | intl => false
  | _ => true

/-- The built-ins that `new` accepts. -/
def isConstructor : Builtin → Bool
  | array | date | number | object | url => true
  | _ => false

/-- The output form of a built-in. -/
def text (b : Builtin) : String :=
  if b.isCallable then "function " ++ b.name ++ "() \x7b [native code] \x7d"
  else "[object " ++ b.name ++ "]"

/-- The constants of the namespaces, by their decimal digits. -/
def constant? (b : Builtin) (key : String) : Option Binary64 :=
  match b, key with
  | math, "PI" => some (Number.ofText "3.141592653589793")
  | math, "E" => some (Number.ofText "2.718281828459045")
  | math, "LN2" => some (Number.ofText "0.6931471805599453")
  | math, "LN10" => some (Number.ofText "2.302585092994046")
  | math, "SQRT2" => some (Number.ofText "1.4142135623730951")
  | number, "MAX_SAFE_INTEGER" => some (Binary64.ofNat 9007199254740991)
  | number, "MIN_SAFE_INTEGER" => some (Binary64.ofInt (-9007199254740991))
  | number, "EPSILON" => some (Binary64.round false 1 (Nat.pow 2 52))
  | number, "NaN" => some Binary64.nan
  | number, "POSITIVE_INFINITY" => some (Binary64.infinity false)
  | number, "NEGATIVE_INFINITY" => some (Binary64.infinity true)
  | _, _ => none

@[simp]
theorem ofName?_name (b : Builtin) : ofName? b.name = some b := by
  cases b <;> rfl

end Builtin

end Stencil
