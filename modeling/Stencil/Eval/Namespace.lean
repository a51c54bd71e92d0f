import Stencil.Eval.DateMethod
import Stencil.Number.Elementary
import Stencil.Number.Prefix
import Stencil.Json.Text
import Stencil.Text.Percent
import Stencil.Value.Json

/-!
# Built-ins at work

Calling a built-in, constructing with it, calling its members, and asking whether a value is one of
its instances.
-/

namespace Stencil

open Calendar (Instant)

/-! ## Members of the namespaces -/

/-- A member of `Math`. -/
def mathCall? (args : Arguments) (name : String) : Option Binary64 :=
  let x := args.number 0
  match name with
  | "abs" => some x.abs
  | "ceil" => some x.ceil
  | "floor" => some x.floor
  | "round" => some x.roundHalfUp
  | "trunc" => some x.trunc
  | "sign" => some x.sign
  | "sqrt" => some x.sqrt
  | "cbrt" => some x.cbrt
  | "log" => some x.log
  | "log10" => some x.log10
  | "log2" => some x.log2
  | "exp" => some x.exp
  | "pow" => some (x.pow (args.number 1))
  | "max" => some (extremum Binary64.max (.infinity true))
  | "min" => some (extremum Binary64.min (.infinity false))
  | _ => none
where
  /-- The last of all arguments in an order, unless one of them is not a number. -/
  extremum (pick : Binary64 → Binary64 → Binary64) (start : Binary64) : Binary64 :=
    let numbers := args.map Value.toNumber
    if numbers.any Binary64.isNaN then .nan else numbers.foldl pick start

/-- The indent that an argument asks for: a count of blanks or the text itself, up to ten
characters. -/
def jsonIndent : Value → String
  | .number n =>
      if (Binary64.ofNat 1).le n then String.ofList (List.replicate (n.toWhole.clamp 10) ' ')
      else ""
  | .string s => String.ofList (s.toList.take 10)
  | _ => ""

/-- The JSON text of a value; `undefined` if it has none. -/
def jsonStringify (args : Arguments) : Value :=
  match (args.value 0).toJson? with
  | some json => .string (json.pretty (jsonIndent (args.value 2)))
  | none => .undefined

/-- The value of a JSON text. -/
def jsonParse (args : Arguments) : Outcome Value :=
  let source := args.text 0
  match Json.read source with
  | .ok json => .ok (.ofJson json)
  | .error error => .error (.badJson error source)

/-- The entries of the first argument, for a member of `Object`. -/
def objectEntries (args : Arguments) : Outcome (List (Value × Value)) :=
  let target := args.value 0
  if target.isNullish then .error .nothingToEnumerate else .ok (target.entries?.getD [])

/-- The whole number of a 32-bit word that is nearest to a number. -/
def nearestWord (x : Binary64) : Nat :=
  x.toWhole.clamp (Nat.pow 2 32 - 1)

/-- A member of `Number`. -/
def numberCall? (args : Arguments) (name : String) : Option Value :=
  let v := args.value 0
  let onNumber (test : Binary64 → Bool) : Value :=
    match v with
    | .number n => .bool (test n)
    | _ => .bool false
  match name with
  | "isInteger" => some (onNumber Binary64.isInteger)
  | "isSafeInteger" =>
      some (onNumber fun n => n.isInteger && n.toInt.natAbs ≤ 9007199254740991)
  | "isFinite" => some (onNumber Binary64.isFinite)
  | "isNaN" => some (onNumber Binary64.isNaN)
  | "parseFloat" => some (.number (Number.readPrefix v.text))
  | "parseInt" =>
      let radix := match args.value 1 with
        | .undefined => 10
        | radix => nearestWord radix.toNumber
      some (.number (Number.readInteger v.text radix))
  | _ => none

namespace Builtin

/-- A member of a built-in, if it has one of that name. -/
def memberCall? (now : Instant) (args : Arguments) (b : Builtin) (name : String) :
    Option (Outcome Value) :=
  match b, name with
  | math, name => (mathCall? args name).map fun n => .ok (.number n)
  | json, "stringify" => some (.ok (jsonStringify args))
  | json, "parse" => some (jsonParse args)
  | array, "isArray" => some (.ok (match args.value 0 with
      | .array _ => .bool true
      | _ => .bool false))
  | array, "of" => some (.ok (.array args))
  | object, "keys" => some ((objectEntries args).map fun entries =>
      .array (entries.map fun (key, _) => .string key.text))
  | object, "values" => some ((objectEntries args).map fun entries =>
      .array (entries.map fun (_, value) => value))
  | object, "entries" => some ((objectEntries args).map fun entries =>
      .array (entries.map fun (key, value) => .array [.string key.text, value]))
  | number, name => (numberCall? args name).map .ok
  | date, "now" => some (.ok (.int now.millis))
  | date, "parse" => some (.ok (match Calendar.read? (args.text 0) with
      | some t => .int t.millis
      | none => .number .nan))
  | _, _ => none

/-- Calls a member of a built-in. -/
def callMember (now : Instant) (args : Arguments) (b : Builtin) (name : String) :
    Outcome Value :=
  match b.memberCall? now args name with
  | some outcome => outcome
  | none => .error (.notFunction (b.name ++ "." ++ name))

/-! ## Constructing and calling -/

/-- The longest array that can be made from its length alone. -/
def arrayLengthLimit : Nat :=
  Nat.pow 2 20

/-- An array from its length or from its elements. -/
def constructArray : Arguments → Outcome Value
  | [.number n] =>
      if n.isInteger && 0 ≤ n.toInt && n.toInt ≤ arrayLengthLimit then
        .ok (.array (List.replicate n.toInt.toNat .undefined))
      else .error .badArrayLength
  | args => .ok (.array args)

/-- An object: a compound value that is not a built-in stays itself, and anything else gives an
object without fields. -/
def constructObject (args : Arguments) : Value :=
  match args.value 0 with
  | v@(.object _) | v@(.array _) | v@(.date _) | v@(.url _) => v
  | _ => .object []

/-- A number: the first argument's, or zero without an argument. -/
def constructNumber (args : Arguments) : Value :=
  match args with
  | [] => .number .zero
  | v :: _ => .number v.toNumber

/-- An address from a text and an optional base. -/
def constructUrl (args : Arguments) : Outcome Url :=
  let input := args.text 0
  let parsed := match args.value 1 with
    | .undefined => Url.read? none input
    | .url base => Url.read? (some base) input
    | base => (Url.read? none base.text).bind fun base => Url.read? (some base) input
  match parsed with
  | some address => .ok address
  | none => .error (.badUrl input)

/-- Applies a coder of URI texts. -/
def codeUri (args : Arguments) (coder : List Char → Option (List Char)) : Outcome Value :=
  match coder (args.chars 0) with
  | some s => .ok (.chars s)
  | none => .error .malformedUri

/-- Constructs with a built-in. -/
def construct (now : Instant) (args : Arguments) : Builtin → Outcome Value
  | array => constructArray args
  | date => (DateMethod.construct now args).map .date
  | number => .ok (constructNumber args)
  | object => .ok (constructObject args)
  | url => (constructUrl args).map .url
  | b => .error (.notConstructor b.name)

/-- Calls a built-in as a function. -/
def call (now : Instant) (args : Arguments) : Builtin → Outcome Value
  | array => constructArray args
  | date => .ok (.string now.text)
  | number => .ok (constructNumber args)
  | object => .ok (constructObject args)
  | url => .error .classCall
  | encodeUri => codeUri args fun s => some (Text.encodeUri s)
  | encodeUriComponent => codeUri args fun s => some (Text.encodeUriComponent s)
  | decodeUri => codeUri args Text.decodeUri?
  | decodeUriComponent => codeUri args Text.decodeUriComponent?
  | escape => codeUri args fun s => some (Text.escapeUnits s)
  | unescape => codeUri args fun s => some (Text.unescapeUnits s)
  | b@math | b@json | b@intl => .error (.notFunction b.name)

/-- Whether a value is an instance of a built-in.  Numbers are instances of nothing. -/
def hasInstance (b : Builtin) (v : Value) : Outcome Bool :=
  if !b.isConstructor then .error (.badInstanceofTarget none)
  else
    .ok (match b, v with
      | array, .array _ | date, .date _ | url, .url _ => true
      | object, .object _ | object, .array _ | object, .date _ | object, .url _ => true
      | object, .builtin other => other.isCallable
      | _, _ => false)

end Builtin

end Stencil
