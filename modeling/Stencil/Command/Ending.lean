import Stencil.DataFormat
import Stencil.Error

/-!
# How a command ends

A command ends well, or fails with a report, or was not understood at all.  A check can also crash,
which leaves no report.
-/

namespace Stencil

/-- Why a command failed. -/
inductive Failure where
  | data (fault : DataFault)
  | unreadableTemplate (path : FilePath) (fault : FileFault)
  | malformedTemplate (path : FilePath) (error : Error)
  | rendering (path : FilePath) (error : Error)
  | noFolder (fault : FileFault)
  | unwritable (path : FilePath) (fault : FileFault)
  | badTemplates (count total : Nat)

namespace Failure

/-- The wording of a failure. -/
def message : Failure → String
  | data fault => fault.message
  | unreadableTemplate path _ => "Failed to read template " ++ Text.quotedRaw path.raw
  | malformedTemplate path _ => "Failed to compile " ++ Text.quotedRaw path.raw
  | rendering path _ => "Failed to render " ++ Text.quotedRaw path.raw
  | noFolder fault => fault.message
  | unwritable path _ => "Failed to write " ++ Text.quotedRaw path.raw
  | badTemplates count total =>
      let text (n : Nat) := String.ofList (Number.natText 10 n)
      text count ++ " of " ++ text total ++ " templates failed to compile"

/-- The wording of what is behind a failure. -/
def cause? : Failure → Option String
  | data fault => fault.cause?
  | unreadableTemplate _ fault => some fault.message
  | malformedTemplate _ error => some error.message
  | rendering _ error => some error.message
  | noFolder _ => none
  | unwritable _ fault => some fault.message
  | badTemplates _ _ => none

/-- A failure and its cause after each other. -/
def summary (failure : Failure) : String :=
  match failure.cause? with
  | some cause => failure.message ++ ": " ++ cause
  | none => failure.message

/-- A text whose lines are indented. -/
def indented (s : String) : String :=
  "    " ++ String.ofList (s.toList.flatMap fun c =>
    if c = '\n' then '\n' :: List.replicate 4 ' ' else [c])

/-- The report of a failure, with its cause in a paragraph of its own. -/
def report (failure : Failure) : String :=
  "Error: " ++ failure.message ++
    (match failure.cause? with
      | some cause => "\n\nCaused by:\n" ++ indented cause
      | none => "") ++ "\n"

end Failure

/-- How a command ends, with the text that it prints. -/
inductive Ending where
  | done (output : String)
  | failed (output : String) (failure : Failure)
  /-- Help was asked for.  Its wording is no part of what the commands do. -/
  | helped
  | misused
  /-- The program gives itself up. -/
  | crashed

namespace Ending

/-- The exit code. -/
def exitCode : Ending → Nat
  | done _ => 0
  | failed _ _ => 1
  | helped => 0
  | misused => 2
  | crashed => 101

/-- The text that a command prints. -/
def output : Ending → String
  | done text => text
  | failed text _ => text
  | helped | misused | crashed => ""

/-- The report of what went wrong. -/
def report? : Ending → Option String
  | failed _ failure => some failure.report
  | _ => none

end Ending

end Stencil
