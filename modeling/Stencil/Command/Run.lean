import Stencil.Command.Check

/-!
# Running a command line

A command line is read and run over some access to files.
-/

namespace Stencil

namespace Command

/-- The version of the program. -/
def programVersion : String :=
  "0.1.4"

/-- Runs a command. -/
def run {m : Type → Type} [Monad m] (files : FileAccess m) (now : Calendar.Instant) :
    Command → m Ending
  | render command => do
      match ← (command.run files now).run with
      | .ok output => return .done output
      | .error failure => return .failed "" failure
  | check command => command.run files
  | .version => return .done ("minibars version " ++ programVersion ++ "\n")

/-- Runs a command line. -/
def runLine {m : Type → Type} [Monad m] (files : FileAccess m) (now : Calendar.Instant)
    (arguments : List RawText) : m Ending :=
  match ofArguments arguments with
  | .ok command => command.run files now
  | .error .help => return .helped
  | .error .version => return .done ("minibars " ++ programVersion ++ "\n")
  | .error .misused => return .misused

end Command

end Stencil
