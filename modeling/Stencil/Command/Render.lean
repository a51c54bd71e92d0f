import Stencil.Command.Basic
import Stencil.Command.Ending
import Stencil.Settings.Reading
import Stencil.Template.Basic

/-!
# Rendering a file

A rendering first reads all that it needs, then renders, and only then writes: to the file that the
command names, or else to that of the settings, or else to the terminal.
-/

namespace Stencil

variable {m : Type → Type} [Monad m]

/-- The template that a file holds. -/
def FileAccess.compile (files : FileAccess m) (path : FilePath) : ExceptT Failure m Template := do
  match ← files.read path with
  | .error fault => throw (.unreadableTemplate path fault)
  | .ok source =>
      match Template.compile source with
      | .error fault => throw (.malformedTemplate path (.malformed fault))
      | .ok template => return template

/-- Writes a file, in a folder that is made if it is missing. -/
def FileAccess.save (files : FileAccess m) (path : FilePath) (text : String) :
    ExceptT Failure m Unit := do
  match path.parent?.filter (!·.isEmpty) with
  | some folder =>
      match ← files.createFolders folder with
      | .error fault => throw (.noFolder fault)
      | .ok () => pure ()
  | none => pure ()
  match ← files.write path text with
  | .error fault => throw (.unwritable path fault)
  | .ok () => return

namespace RenderCommand

/-- The settings of a rendering. -/
def readSettings (files : FileAccess m) (command : RenderCommand) : ExceptT DataFault m Settings :=
  match command.settings with
  | some path => files.readSettings path
  | none => return .empty

/-- The context of a rendering.  A context file of the command takes the place of that of the
settings. -/
def readContext (files : FileAccess m) (command : RenderCommand) (settings : Settings) :
    ExceptT DataFault m Context :=
  match command.context with
  | some path => files.readContext path
  | none => settings.readContext files

/-- The values of declared globals.  Those in a file of the command go before those of the
settings. -/
def readGlobals (files : FileAccess m) (command : RenderCommand) (settings : Settings) :
    ExceptT DataFault m Context := do
  match command.globals with
  | some path => return settings.globalsContext.merge (← files.readContext path)
  | none => return settings.globalsContext

/-- The text of a rendering, and the file that it goes to, if it goes to one. -/
def rendered (files : FileAccess m) (now : Calendar.Instant) (command : RenderCommand) :
    ExceptT Failure m (String × Option FilePath) := do
  let (settings, context, globals) ← ExceptT.adapt Failure.data do
    let settings ← command.readSettings files
    let context ← command.readContext files settings
    return (settings, context, ← command.readGlobals files settings)
  let template ← files.compile command.template
  match template.render settings.suppliedHost now context globals with
  | .error fault => throw (.rendering command.template (.evaluation fault))
  | .ok text => return (text, command.output.or settings.output)

/-- A rendering.  The result is what is printed. -/
def run (files : FileAccess m) (now : Calendar.Instant) (command : RenderCommand) :
    ExceptT Failure m String := do
  match ← command.rendered files now with
  | (text, none) => return text
  | (text, some path) =>
      files.save path text
      return ""

end RenderCommand

end Stencil
