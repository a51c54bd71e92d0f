import Stencil.DataFormat
import Stencil.Host

/-!
# Settings of a rendering

Settings name the files that a rendering reads and writes, and give values to globals.
-/

namespace Stencil

/-- Settings of a rendering. -/
structure Settings where
  /-- The file that holds the context. -/
  context : Option FilePath
  /-- The values of declared globals. -/
  globals : List (String × Json)
  /-- The values of global names of the host. -/
  host : List (String × Json)
  /-- The file for the output. -/
  output : Option FilePath

namespace Settings

/-- Settings that say nothing. -/
def empty : Settings :=
  ⟨none, [], [], none⟩

/-- Settings whose files are seen from a folder. -/
def under (folder : FilePath) (settings : Settings) : Settings :=
  { settings with
    context := settings.context.map folder.under
    output := settings.output.map folder.under }

/-- The values of declared globals as a context. -/
def globalsContext (settings : Settings) : Context :=
  .ofPairs (Value.ofJsonFields settings.globals)

/-- The host with the values that the settings supply. -/
def suppliedHost (settings : Settings) : Host :=
  .standard (Fields.ofPairs (Value.ofJsonFields settings.host))

/-- The context of the settings, which is empty if they name none. -/
def readContext {m : Type → Type} [Monad m] (settings : Settings) (files : FileAccess m) :
    ExceptT DataFault m Context := do
  match settings.context with
  | some path => files.readContext path
  | none => return .empty

/-! ## Fields -/

/-- The fields of settings. -/
inductive Field where
  | context
  | globals
  | host
  | output
  deriving DecidableEq

/-- The name of a field. -/
def Field.name : Field → String
  | context => "context"
  | globals => "globals"
  | host => "host"
  | output => "output"

/-- The fields in their order. -/
def Field.all : List Field :=
  [.context, .globals, .host, .output]

/-- The field of a name. -/
def Field.ofName? (name : String) : Option Field :=
  all.find? fun field => field.name = name

end Settings

end Stencil
