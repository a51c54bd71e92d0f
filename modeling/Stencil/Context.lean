import Stencil.Value.Json

/-!
# Contexts

A context is an ordered mapping from names to values, in which no name is bound twice.  A name keeps
the place of its first insertion and takes the value of its last one.
-/

namespace Stencil

/-- Variables with their values. -/
@[ext]
structure Context where
  bindings : List (String × Value)
  distinct : (Fields.keys bindings).Nodup

namespace Context

/-- The context without variables. -/
def empty : Context :=
  ⟨[], List.nodup_nil⟩

/-- The context of pairs that are written one after the other. -/
def ofPairs (pairs : List (String × Value)) : Context :=
  ⟨Fields.ofPairs pairs, Fields.nodup_keys_ofPairs pairs⟩

/-- Gives a variable a value. -/
def set (context : Context) (name : String) (value : Value) : Context :=
  ⟨Fields.insert name value context.bindings,
    Fields.nodup_keys_insert context.distinct name value⟩

/-- The value of a variable. -/
def get? (context : Context) (name : String) : Option Value :=
  Fields.find? name context.bindings

/-- Whether there is a variable of a name. -/
def contains (context : Context) (name : String) : Bool :=
  Fields.contains name context.bindings

/-- The count of variables. -/
def size (context : Context) : Nat :=
  context.bindings.length

/-- Whether there are no variables. -/
def isEmpty (context : Context) : Bool :=
  context.bindings.isEmpty

/-- Gives every variable of another context its value there. -/
def merge (context other : Context) : Context :=
  ⟨Fields.insertAll context.bindings other.bindings,
    Fields.nodup_keys_insertAll context.distinct other.bindings⟩

/-- The context of a JSON object; other JSON values make no context. -/
def ofJson? (json : Json) : Option Context :=
  match json with
  | .object fields => some (ofPairs (Value.ofJsonFields fields))
  | _ => none

end Context

end Stencil
