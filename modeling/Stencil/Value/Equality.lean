import Stencil.Value.Basic

/-!
# Equality of values

Strict equality holds between values of one kind.  Compound values are compared by their parts,
since expressions only ever see copies: arrays in order, objects as unordered mappings.  Loose
equality converts between kinds first.
-/

namespace Stencil.Value

mutual

/-- Strict equality. -/
def strictEq : Value → Value → Bool
  | undefined, undefined => true
  | null, null => true
  | bool a, bool b => a == b
  | number a, number b => a.beq b
  | string a, string b => a == b
  | array a, array b => strictEqItems a b
  | object a, object b => a.length == b.length && strictEqFields a b
  | date a, date b => a == b
  | url a, url b => a.href == b.href
  | builtin a, builtin b => a == b
  | _, _ => false

/-- Strict equality of arrays, element by element. -/
def strictEqItems : List Value → List Value → Bool
  | [], [] => true
  | a :: as, b :: bs => strictEq a b && strictEqItems as bs
  | _, _ => false

/-- Whether every field has an equal partner among other fields. -/
def strictEqFields : List (String × Value) → List (String × Value) → Bool
  | [], _ => true
  | (key, value) :: rest, others =>
      (match Fields.find? key others with
        | some other => strictEq value other
        | none => false) && strictEqFields rest others

end

/-- Loose equality of strings and numbers. -/
def looseEqPrimitive : Value → Value → Bool
  | string a, string b => a == b
  | a, b => a.toNumber.beq b.toNumber

/-- Loose equality.  The two values without properties equal each other and nothing else; a
boolean is compared by its number; a compound value is compared with a primitive one by its
output form. -/
def looseEq (a b : Value) : Bool :=
  if a.isNullish || b.isNullish then a.isNullish && b.isNullish
  else
    match a, b with
    | bool x, bool y => x == y
    | bool _, _ | _, bool _ => a.toNumber.beq b.toNumber
    | _, _ =>
        if a.isCompound && b.isCompound then a.strictEq b
        else looseEqPrimitive a.toPrimitive b.toPrimitive

end Stencil.Value
