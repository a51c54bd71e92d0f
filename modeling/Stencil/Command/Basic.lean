import Stencil.Command.Arguments
import Stencil.FilePath

/-!
# Commands

What a command line asks for: a rendering, a check of templates, or the version of the program.
-/

namespace Stencil

/-- A rendering of a template. -/
structure RenderCommand where
  template : FilePath
  /-- The file that holds the context. -/
  context : Option FilePath
  /-- The file that holds values of declared globals. -/
  globals : Option FilePath
  /-- The file that holds settings. -/
  settings : Option FilePath
  /-- The file for the output. -/
  output : Option FilePath

/-- A check of templates, with the report as text or as JSON. -/
structure CheckCommand where
  templates : List FilePath
  asJson : Bool

/-- What a command line asks for. -/
inductive Command where
  | render (command : RenderCommand)
  | check (command : CheckCommand)
  | version

namespace Command

/-! ## Options -/

/-- The options of every command. -/
def commonSwitches : List Switch :=
  [⟨"debug", some 'd', .flag⟩, ⟨"help", some 'h', .help⟩]

/-- The options in front of a command. -/
def programSwitches : List Switch :=
  commonSwitches ++ [⟨"version", some 'V', .version⟩]

/-- The options of a rendering. -/
def renderSwitches : List Switch :=
  commonSwitches ++
    [⟨"context", some 'c', .value⟩, ⟨"globals", some 'g', .value⟩, ⟨"config", none, .value⟩,
      ⟨"output", some 'o', .value⟩]

/-- The options of a check. -/
def checkSwitches : List Switch :=
  commonSwitches ++ [⟨"json", none, .flag⟩]

/-! ## Commands -/

/-- The path that is the value of an option. -/
def path? (arguments : Arguments) (name : String) : Option FilePath :=
  (arguments.options.lookup name).map FilePath.mk

/-- A rendering, of one template. -/
def readRender (rest : List RawText) : Except Stop Command := do
  let arguments ← readArguments renderSwitches 1 false ⟨.none, none⟩ rest
  match arguments.operands with
  | [template] =>
      let path := path? arguments
      return .render ⟨⟨template⟩, path "context", path "globals", path "config", path "output"⟩
  | _ => .error .misused

/-- A check, of at least one template. -/
def readCheck (rest : List RawText) : Except Stop Command := do
  let arguments ← readArguments checkSwitches rest.length false ⟨.none, none⟩ rest
  if arguments.operands.isEmpty then .error .misused
  else return .check ⟨arguments.operands.map FilePath.mk, arguments.has "json"⟩

/-- The version, without operands. -/
def readVersion (rest : List RawText) : Except Stop Command := do
  let _ ← readArguments commonSwitches 0 false ⟨.none, none⟩ rest
  return .version

/-- Help on the program or on one command. -/
def readHelp (rest : List RawText) : Except Stop Command :=
  match rest with
  | [] => .error .help
  | [name] =>
      if name ∈ ["render", "r", "check", "version", "help"].map RawText.ofText then .error .help
      else .error .misused
  | _ => .error .misused

/-- The command of a name and the arguments after it. -/
def readNamed (name : RawText) (rest : List RawText) : Except Stop Command :=
  if name = "render" || name = "r" then readRender rest
  else if name = "check" then readCheck rest
  else if name = "version" then readVersion rest
  else if name = "help" then readHelp rest
  else .error .misused

/-- The command of a command line, after the options in `arguments`. -/
def readAfter (arguments : Arguments) : List RawText → Except Stop Command
  | [] => .error .misused
  | argument :: rest =>
      if argument = "--" then .error .misused
      else if isSwitch argument then do
        let reading ← readSwitch programSwitches arguments argument
        readAfter reading.arguments rest
      else readNamed argument rest

/-- The command of a command line. -/
def ofArguments (arguments : List RawText) : Except Stop Command :=
  readAfter .none arguments

end Command

end Stencil
