import Stencil.Template.Rendering
import Stencil.Template.Resolution

/-!
# Templates

A template is compiled once from its source and rendered any number of times.
-/

namespace Stencil

/-- A compiled template. -/
structure Template where
  source : String
  nodes : List Node
  /-- The names that are bound from the context, in order of first use. -/
  required : List String
  /-- The globals that the template declares. -/
  declared : List String

namespace Template

/-- The template of a source. -/
def compile (source : String) : Except (Located Fault) Template := do
  let scanned ← scan (normalize source.toList)
  let nodes ← nodesOf scanned.pieces
  .ok ⟨source, nodes, requiredNames scanned.globals nodes, scanned.globals⟩

/-- The environment in which a template is rendered at a time. -/
def environment (template : Template) (host : Host) (now : Calendar.Instant)
    (context globals : Context) : Environment :=
  ((Environment.ofHost host now).withContext context template.required).withDeclared
    template.declared globals

/-- The output of a template at a time.  Declared globals take their values from `globals`. -/
def render (template : Template) (host : Host) (now : Calendar.Instant)
    (context globals : Context) : Outcome String :=
  renderNodes (template.environment host now context globals) template.nodes

end Template

end Stencil
