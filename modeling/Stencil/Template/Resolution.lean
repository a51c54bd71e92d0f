import Stencil.Environment
import Stencil.Template.Node

/-!
# Required names

Which names of a template have to come from the context: those that occur outside every loop that
binds them, are not reserved, and that neither the host nor the template's own declaration answers
for.
-/

namespace Stencil.Template

/-- The names of an expression that are not variables of enclosing loops. -/
def unbound (bound : List String) (source : Source) : List String :=
  source.expr.names.filter fun name => !bound.contains name

mutual

/-- The names that occur in a node outside the loops that bind them, in order. -/
def freeNames (bound : List String) : Node → List String
  | .text _ | .index => []
  | .interpolation source _ => unbound bound source
  | .ifThen condition body => unbound bound condition ++ freeNamesOfAll bound body
  | .ifElse condition body alternative =>
      unbound bound condition ++ freeNamesOfAll bound body ++ freeNamesOfAll bound alternative
  | .each loopVar collection body =>
      unbound bound collection ++ freeNamesOfAll (loopVar :: bound) body

/-- The names that occur in nodes outside the loops that bind them, in order. -/
def freeNamesOfAll (bound : List String) : List Node → List String
  | [] => []
  | node :: rest => freeNames bound node ++ freeNamesOfAll bound rest

end

/-- Whether the context has to answer for a free name. -/
def isRequired (declared : List String) (name : String) : Bool :=
  !(Name.isReserved name || Host.isGlobal name || declared.contains name)

/-- The required names of a template in order of their first occurrence. -/
def requiredNames (declared : List String) (nodes : List Node) : List String :=
  ((freeNamesOfAll [] nodes).filter (isRequired declared)).eraseDups

end Stencil.Template
