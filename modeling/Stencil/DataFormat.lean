import Stencil.Context
import Stencil.FileAccess
import Stencil.Json.Reading
import Stencil.Text.Quoted
import Stencil.Toml.Reading
import Stencil.Yaml.Schema

/-!
# Data files

A data file is written in JSON, YAML or TOML, as the extension of its name says.
-/

namespace Stencil

/-- A format of data files. -/
inductive DataFormat where
  | json
  | yaml
  | toml
  deriving DecidableEq

/-- A text that is not of its format. -/
inductive Malformed where
  | json (error : Json.ReadError) (source : String)
  | yaml
  | toml

/-- The wording of a malformed text. -/
def Malformed.message : Malformed → String
  | json error source => error.message source
  | yaml => "malformed YAML"
  | toml => "malformed TOML"

namespace DataFormat

/-- The format that the extension of a name asks for, in letters of either case. -/
def ofPath? (path : FilePath) : Option DataFormat :=
  match ((path.extension?.bind RawText.text?).getD "").toLower with
  | "json" => some json
  | "yml" | "yaml" => some yaml
  | "toml" => some toml
  | _ => none

/-- The value of a text. -/
def read (format : DataFormat) (s : String) : Except Malformed Json :=
  match format with
  | json => (Json.read s).mapError (.json · s)
  | yaml => (Yaml.readJson? s).elim (.error .yaml) .ok
  | toml => (Toml.read? s).elim (.error .toml) fun fields =>
      .ok (.object (Toml.Value.toJsonFields fields))

end DataFormat

/-- What can be wrong with a data file. -/
inductive DataFault where
  | unsupported (path : FilePath)
  | unreadable (path : FilePath) (fault : FileFault)
  | malformed (path : FilePath) (fault : Malformed)
  | noMapping (path : FilePath)

namespace DataFault

/-- The wording of a fault. -/
def message : DataFault → String
  | unsupported path =>
      "Unsupported data file " ++ Text.quotedRaw path.raw ++
        ": expected .json, .yaml, .yml or .toml"
  | unreadable path _ => "Failed to read " ++ Text.quotedRaw path.raw
  | malformed path _ => "Failed to parse " ++ Text.quotedRaw path.raw
  | noMapping path => Text.quotedRaw path.raw ++ " must contain a mapping at the top level"

/-- The wording of what is behind a fault. -/
def cause? : DataFault → Option String
  | unreadable _ fault => some fault.message
  | malformed _ fault => some fault.message
  | unsupported _ => none
  | noMapping _ => none

end DataFault

namespace FileAccess

variable {m : Type → Type} [Monad m]

/-- What a reader makes of a data file. -/
def readData (files : FileAccess m) (path : FilePath)
    (reader : DataFormat → String → Except Malformed α) : ExceptT DataFault m α := do
  match DataFormat.ofPath? path with
  | none => throw (.unsupported path)
  | some format =>
      match ← files.read path with
      | .error fault => throw (.unreadable path fault)
      | .ok text =>
          match reader format text with
          | .error fault => throw (.malformed path fault)
          | .ok value => return value

/-- The context that a data file holds. -/
def readContext (files : FileAccess m) (path : FilePath) : ExceptT DataFault m Context := do
  match Context.ofJson? (← files.readData path DataFormat.read) with
  | some context => return context
  | none => throw (.noMapping path)

end FileAccess

end Stencil
