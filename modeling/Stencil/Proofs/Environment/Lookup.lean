import Stencil.Environment
import Stencil.Proofs.Fields

/-!
# Look-up in environments

What the bindings of a context and of declared globals answer for a name, in terms of the names that
were asked for and of the values that were supplied.
-/

namespace Stencil

namespace Environment

/-- A declared global has its supplied value, or else `undefined`. -/
theorem find?_declared_withDeclared (env : Environment) (names : List String) (supplied : Context)
    (name : String) :
    Fields.find? name (env.withDeclared names supplied).declared =
      if name ∈ names then some ((supplied.get? name).getD .undefined)
      else Fields.find? name env.declared := by
  rw [withDeclared, Fields.find?_append,
    Fields.find?_map_names (fun other => (supplied.get? other).getD .undefined)]
  split <;> rfl

/-- A context binds the required names that it supplies and that are no globals of the host. -/
theorem find?_context_withContext (env : Environment) (context : Context) (required : List String)
    (name : String) :
    Fields.find? name (env.withContext context required).context =
      (if name ∈ required then (if Host.isGlobal name then none else context.get? name)
        else none).or (Fields.find? name env.context) := by
  rw [withContext, Fields.find?_append, ← Fields.find?_filterMap_names
    (fun other => if Host.isGlobal other then none else context.get? other)]
  congr 3
  funext other
  split <;> rfl

/-- The variable of the innermost loop stands for its value. -/
@[simp]
theorem lookup_push_self (env : Environment) (name : String) (value index : Value) :
    (env.push ⟨name, value, index⟩).lookup name = value := by
  simp [lookup, push]

/-- The innermost loop binds nothing but its variable. -/
theorem lookup_push_of_ne (env : Environment) {name other : String} (value index : Value)
    (distinct : name ≠ other) :
    (env.push ⟨name, value, index⟩).lookup other = env.lookup other := by
  simp only [lookup, push]
  rw [List.find?_cons_of_neg (by simpa using distinct)]
  rfl

end Environment

end Stencil
