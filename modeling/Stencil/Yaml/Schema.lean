import Stencil.Json.Basic
import Stencil.Number.Reading
import Stencil.Yaml.Node

/-!
# The values of YAML scalars

A plain scalar is null, a truth value, a number or a string by the way it is spelt.  A scalar in
quotes is a string.  A tag of the core schema asks for one of these kinds, a tag of the text's own
is refused, and any other tag makes a string.
-/

namespace Stencil.Yaml

open Text Number

/-! ## Plain scalars -/

/-- The spellings of null. -/
def isNull (s : List Char) : Bool :=
  ["null", "Null", "NULL", "~"].any fun word => word.toList == s

/-- The truth value that a text spells. -/
def bool? (s : List Char) : Option Bool :=
  if ["true", "True", "TRUE"].any fun word => word.toList == s then some true
  else if ["false", "False", "FALSE"].any fun word => word.toList == s then some false
  else none

/-- Digits after a sign whose first is zero and which go on: they spell no number. -/
def isPaddedNumber (s : List Char) : Bool :=
  match (readSign s).2 with
  | '0' :: rest => !rest.isEmpty && rest.all isDigit
  | _ => false

/-- The number of digits of a base. -/
def ofRadix? (base : Nat) (digits : List Char) : Option Nat :=
  if !digits.isEmpty && digits.all (fun c => (digitOf? base c).isSome) then
    some (ofDigits base digits)
  else none

/-- The integer that a text spells: in tens, or in another base after its mark. -/
def integer? (s : List Char) : Option Int :=
  let (negative, unsigned) := readSign s
  let size := match unsigned with
    | '0' :: 'x' :: digits => ofRadix? 16 digits
    | '0' :: 'o' :: digits => ofRadix? 8 digits
    | '0' :: 'b' :: digits => ofRadix? 2 digits
    | digits => if isPaddedNumber digits then none else ofRadix? 10 digits
  size.map fun n => if negative then -(n : Int) else n

/-- Whether an integer is one of words of a count of bits, signed if it is below zero. -/
def fitsWord (bits : Nat) (n : Int) : Bool :=
  -(Nat.pow 2 (bits - 1) : Nat) ≤ n && n < (Nat.pow 2 bits : Nat)

/-- The fraction that a text spells.  What overflows spells none. -/
def float? (s : List Char) : Option Binary64 :=
  let unsigned := match s with
    | '+' :: rest => rest
    | _ => s
  if [".inf", ".Inf", ".INF"].any fun word => word.toList == unsigned then
    some (.infinity false)
  else if ["-.inf", "-.Inf", "-.INF"].any fun word => word.toList == s then
    some (.infinity true)
  else if [".nan", ".NaN", ".NAN"].any fun word => word.toList == s then some .nan
  else (readDecimal? s).filter Binary64.isFinite

/-- A fraction as JSON, which has no form for those that are not finite. -/
def floatJson (n : Binary64) : Json :=
  if n.isFinite then .number n else .null

/-- The value of an integer.  Integers of more than 64 bits are refused. -/
def integerJson? (n : Int) : Option Json :=
  if fitsWord 64 n then some (.number (.ofInt n)) else none

/-- The value of a plain scalar.  Integers of more than 128 bits count as fractions. -/
def plainJson? (s : List Char) : Option Json :=
  let other :=
    match (if isPaddedNumber s then none else float? s) with
    | some n => floatJson n
    | none => .string (String.ofList s)
  if s.isEmpty || isNull s then some .null
  else
    match bool? s, integer? s with
    | some b, _ => some (.bool b)
    | none, some n => if fitsWord 128 n then integerJson? n else some other
    | none, none => some other

/-! ## Tags -/

/-- What a tag asks for. -/
inductive TagKind where
  | bool
  | integer
  | float
  | null
  | own
  | other
  deriving DecidableEq

/-- What a tag asks for. -/
def TagKind.ofTag (tag : List Char) : TagKind :=
  if tag.head? = some '!' then .own
  else if tag = "tag:yaml.org,2002:bool".toList then .bool
  else if tag = "tag:yaml.org,2002:int".toList then .integer
  else if tag = "tag:yaml.org,2002:float".toList then .float
  else if tag = "tag:yaml.org,2002:null".toList then .null
  else .other

/-- The value of a scalar. -/
def scalarJson? (tag : Option (List Char)) (isPlain : Bool) (s : List Char) : Option Json :=
  match tag.map TagKind.ofTag with
  | none => if isPlain then plainJson? s else some (.string (String.ofList s))
  | some .bool => (bool? s).map .bool
  | some .integer => (integer? s).bind integerJson?
  | some .float => (float? s).map floatJson
  | some .null => if isNull s then some .null else none
  | some .own => none
  | some .other => some (.string (String.ofList s))

namespace Node

/-- Whether a tag is one of the text's own. -/
def isLocal (tag : Option (List Char)) : Bool :=
  tag.map TagKind.ofTag = some .own

/-- The text of a node that can be a key. -/
def keyText? : Node → Option String
  | scalar _ _ text => some (String.ofList text)
  | _ => none

mutual

/-- The JSON value of a node, in which sequences and mappings nest up to a count of levels. -/
def toJson? (levels : Nat) : Node → Option Json
  | scalar tag isPlain text => scalarJson? tag isPlain text
  | sequence tag items =>
      if isLocal tag then none
      else
        match levels with
        | 0 => none
        | levels + 1 => (toJsonItems? levels items).map .array
  | mapping tag pairs =>
      if isLocal tag then none
      else
        match levels with
        | 0 => none
        | levels + 1 =>
            (toJsonFields? levels pairs).map fun fields => .object (Fields.ofPairs fields)

/-- The JSON values of the items of a sequence. -/
def toJsonItems? (levels : Nat) : List Node → Option (List Json)
  | [] => some []
  | item :: rest => do
      let item ← toJson? levels item
      let rest ← toJsonItems? levels rest
      some (item :: rest)

/-- The fields of a mapping. -/
def toJsonFields? (levels : Nat) : List (Node × Node) → Option (List (String × Json))
  | [] => some []
  | (key, value) :: rest => do
      let key ← key.keyText?
      let value ← toJson? levels value
      let rest ← toJsonFields? levels rest
      some ((key, value) :: rest)

end

end Node

/-- How deeply sequences and mappings may nest. -/
def nestingLimit : Nat :=
  128

/-- The JSON value of a text.  A text without a document is null. -/
def readJson? (s : String) : Option Json :=
  match read? s.toList with
  | none => none
  | some none => some .null
  | some (some node) => node.toJson? nestingLimit

end Stencil.Yaml
