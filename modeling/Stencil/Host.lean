import Stencil.Value.Basic

/-!
# The host

A host answers for a fixed list of global names.  These names never refer to the context, whether
the host gives them a value or not.
-/

namespace Stencil

/-- What stands behind the global names. -/
structure Host where
  global? : String → Option Value

namespace Host

/-- The names that a host answers for. -/
def globalNames : List String :=
  ["Array", "Date", "Intl", "JSON", "Math", "NaN", "Number", "Object", "URL", "document", "window",
    "history", "innerHeight", "innerWidth", "localStorage", "location", "sessionStorage",
    "unescape", "encodeURI", "encodeURIComponent", "decodeURI", "decodeURIComponent", "escape",
    "process", "global"]

/-- Whether a host answers for a name. -/
def isGlobal (name : String) : Bool :=
  globalNames.contains name

/-- The built-in value of a global name. -/
def builtin? (name : String) : Option Value :=
  if name = "NaN" then some (.number Binary64.nan)
  else (Builtin.ofName? name).map .builtin

/-- The host with all built-ins.  Supplied values of global names take their place; values supplied
for other names are ignored. -/
def standard (supplied : List (String × Value)) : Host where
  global? name := if isGlobal name then (Fields.find? name supplied).or (builtin? name) else none

/-- The value of a global name. -/
def global (host : Host) (name : String) : Value :=
  (host.global? name).getD .undefined

end Host

end Stencil
