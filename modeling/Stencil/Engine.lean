import Stencil.Error
import Stencil.Template.Basic

/-!
# Engines

An engine keeps compiled templates by name and renders them with one host.  A source that does not
compile leaves the template of its name as it was.
-/

namespace Stencil

/-- Templates by name, and the host that they are rendered with. -/
structure Engine where
  host : Host
  templates : List (String × Template)

namespace Engine

/-- The engine of a host without templates. -/
def ofHost (host : Host) : Engine :=
  ⟨host, []⟩

/-- Compiles a source and keeps the template under a name. -/
def register (engine : Engine) (name source : String) : Except Error Engine :=
  match Template.compile source with
  | .ok template => .ok { engine with templates := Fields.insert name template engine.templates }
  | .error fault => .error (.malformed fault)

/-- The template of a name. -/
def get? (engine : Engine) (name : String) : Option Template :=
  Fields.find? name engine.templates

/-- Whether there is a template of a name. -/
def hasTemplate (engine : Engine) (name : String) : Bool :=
  Fields.contains name engine.templates

/-- The output of the template of a name at a time. -/
def render (engine : Engine) (name : String) (now : Calendar.Instant) (context globals : Context) :
    Except Error String :=
  match engine.get? name with
  | none => .error (.templateNotFound name)
  | some template => (template.render engine.host now context globals).mapError .evaluation

end Engine

end Stencil
