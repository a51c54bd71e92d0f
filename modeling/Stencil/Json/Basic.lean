import Stencil.Fields
import Stencil.Number.Layout

/-!
# JSON values

Values of the data format, with objects in the order of their keys.
-/

namespace Stencil

/-- A JSON value. -/
inductive Json where
  | null
  | bool (b : Bool)
  | number (n : Binary64)
  | string (s : String)
  | array (items : List Json)
  | object (fields : List (String × Json))

namespace Json

instance : Inhabited Json :=
  ⟨null⟩

/-- The fields of an object. -/
def fields? : Json → Option (List (String × Json))
  | object fields => some fields
  | _ => none

/-- The value of a key of an object. -/
def get? (json : Json) (key : String) : Option Json :=
  json.fields?.bind (Fields.find? key)

end Json

end Stencil
