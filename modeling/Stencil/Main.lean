import Std.Time.DateTime.Timestamp
import Stencil.Command.Run

/-!
# The program

The command line over the files of the machine.
-/

namespace Stencil.Terminal

/-- The fault that an error of the machine stands for. -/
def faultOf (error : IO.Error) : FileFault :=
  match error with
  | .noFileOrDirectory _ _ _ => .missing
  | .alreadyExists _ _ _ => .present
  | .inappropriateType _ code _ => if code = 21 || code = 0 - 21 then .isFolder else .notFolder
  | other => .other (toString other)

/-- The result of an operation on files. -/
def attempt (action : IO α) : IO (Except FileFault α) := do
  match (← action.toBaseIO) with
  | .ok value => return .ok value
  | .error error => return .error (faultOf error)

/-- The files of the machine.  Arguments and settings come as strings here, so that every path is
displayed as it is. -/
def files : FileAccess IO where
  read path := attempt (IO.FS.readFile path.raw.display)
  createFolders path := attempt (IO.FS.createDirAll path.raw.display)
  write path text := attempt (IO.FS.writeFile path.raw.display text)

/-- The time of the machine's clock. -/
def clock : IO Calendar.Instant := do
  let nanos := (← Std.Time.Timestamp.now).toNanosecondsSinceUnixEpoch.toInt
  return ⟨nanos / 1000000000, (nanos % 1000000000).toNat⟩

end Stencil.Terminal

/-- Runs the program: text goes to the standard output, and a report to the standard error. -/
def main (arguments : List String) : IO UInt32 := do
  let now ← Stencil.Terminal.clock
  let ending ← Stencil.Command.runLine Stencil.Terminal.files now
    (arguments.map Stencil.RawText.ofText)
  IO.print ending.output
  (← IO.getStdout).flush
  IO.eprint (ending.report?.getD "")
  return ending.exitCode.toUInt32
