import Stencil.Command.Render
import Stencil.Json.Text

/-!
# Checking templates

A check compiles templates one by one and reports on every one of them, whether it compiles or not.
A report in JSON has a place for every path, and a path that is no text crashes the program.
-/

namespace Stencil

/-- What a check finds out about a template. -/
structure Verdict where
  path : FilePath
  result : Except Failure Template

namespace Verdict

/-- Whether the template does not compile. -/
def isBad (verdict : Verdict) : Bool :=
  match verdict.result with
  | .ok _ => false
  | .error _ => true

/-- A line of names behind a heading, if there are any names. -/
def nameLine (heading : String) (names : List String) : String :=
  if names.isEmpty then "" else "      " ++ heading ++ ", ".intercalate names ++ "\n"

/-- The lines of a verdict. -/
def text (verdict : Verdict) : String :=
  match verdict.result with
  | .ok template =>
      "ok    " ++ verdict.path.raw.display ++ "\n" ++ nameLine "required: " template.required ++
        nameLine "globals:  " template.declared
  | .error failure => "error " ++ verdict.path.raw.display ++ "\n      " ++ failure.summary ++ "\n"

/-- The JSON form of a verdict, if its path is a text. -/
def json? (verdict : Verdict) : Option Json := do
  let names (names : List String) : Json := .array (names.map .string)
  let path ← verdict.path.raw.text?
  match verdict.result with
  | .ok template =>
      return .object [("template", .string path), ("ok", .bool true),
        ("required", names template.required), ("globals", names template.declared)]
  | .error failure =>
      return .object [("template", .string path), ("ok", .bool false),
        ("error", .string failure.summary)]

end Verdict

namespace CheckCommand

variable {m : Type → Type} [Monad m]

/-- The verdicts on templates, in their order.  There are none if the check crashes: in a report in
JSON, it does at the first verdict without a JSON form. -/
def verdicts (files : FileAccess m) (asJson : Bool) : List FilePath → m (Option (List Verdict))
  | [] => return some []
  | path :: rest => do
      let result ← (files.compile path).run
      let verdict : Verdict := ⟨path, result⟩
      if asJson && verdict.json?.isNone then return none
      else return (← verdicts files asJson rest).map (verdict :: ·)

/-- The report of verdicts. -/
def report (asJson : Bool) (verdicts : List Verdict) : String :=
  if asJson then (Json.array (verdicts.filterMap Verdict.json?)).pretty "  " ++ "\n"
  else String.join (verdicts.map Verdict.text)

/-- A check, which fails if a template does. -/
def run (files : FileAccess m) (command : CheckCommand) : m Ending := do
  match ← verdicts files command.asJson command.templates with
  | none => return .crashed
  | some verdicts =>
      let output := report command.asJson verdicts
      let bad := verdicts.countP Verdict.isBad
      if bad = 0 then return .done output
      else return .failed output (.badTemplates bad command.templates.length)

end CheckCommand

end Stencil
