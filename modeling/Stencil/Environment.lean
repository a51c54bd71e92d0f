import Stencil.Context
import Stencil.Host

/-!
# Environments

What names stand for while a template is rendered.  A name stands, in this order, for the variable
of an enclosing loop, innermost first; for a declared global; for a global of the host; for a
variable of the context; and otherwise for `undefined`.
-/

namespace Stencil

/-- One turn of a loop: its variable, the variable's value, and the index of the turn. -/
structure Frame where
  name : String
  value : Value
  index : Value

/-- What names stand for. -/
structure Environment where
  host : Host
  /-- The time that is read while rendering. -/
  now : Calendar.Instant
  context : List (String × Value)
  declared : List (String × Value)
  /-- The turns of the enclosing loops, innermost first. -/
  frames : List Frame

namespace Environment

/-- The environment of a host alone. -/
def ofHost (host : Host) (now : Calendar.Instant) : Environment where
  host := host
  now := now
  context := []
  declared := []
  frames := []

/-- Binds the required names that the context supplies, except those of host globals.  Other names
keep what they are bound to. -/
def withContext (env : Environment) (context : Context) (required : List String) :
    Environment :=
  { env with
    context := (required.filterMap fun name =>
      if Host.isGlobal name then none else (context.get? name).map fun v => (name, v)) ++
        env.context }

/-- Binds every declared global to its supplied value, or to `undefined`.  Other names keep what
they are bound to. -/
def withDeclared (env : Environment) (names : List String) (supplied : Context) :
    Environment :=
  { env with
    declared := (names.map fun name => (name, (supplied.get? name).getD .undefined)) ++
      env.declared }

/-- What a name stands for outside all loops. -/
def outerLookup (env : Environment) (name : String) : Value :=
  match Fields.find? name env.declared with
  | some v => v
  | none =>
      if Host.isGlobal name then env.host.global name
      else (Fields.find? name env.context).getD .undefined

/-- What a name stands for. -/
def lookup (env : Environment) (name : String) : Value :=
  match env.frames.find? (·.name == name) with
  | some frame => frame.value
  | none => env.outerLookup name

/-- The index of the innermost loop's turn. -/
def loopIndex (env : Environment) : Value :=
  match env.frames with
  | [] => .undefined
  | frame :: _ => frame.index

/-- The environment inside a turn of a loop. -/
def push (env : Environment) (frame : Frame) : Environment :=
  { env with frames := frame :: env.frames }

/-- The environment outside the innermost loop. -/
def pop (env : Environment) : Environment :=
  { env with frames := env.frames.tail }

/-- The count of enclosing loops. -/
def depth (env : Environment) : Nat :=
  env.frames.length

@[simp]
theorem pop_push (env : Environment) (frame : Frame) : (env.push frame).pop = env :=
  rfl

end Environment

end Stencil
