import Stencil.Eval.Fault
import Stencil.Template.Fault

/-!
# Errors

What a user of templates can be told: that a source is malformed and where, that an evaluation
failed, or that there is no template of a name.
-/

namespace Stencil

/-- An error of compiling, looking up or rendering a template. -/
inductive Error where
  | malformed (fault : Located Template.Fault)
  | evaluation (fault : EvalFault)
  | templateNotFound (name : String)

/-- The wording of an error. -/
def Error.message : Error → String
  | malformed fault =>
      "Syntax error at offset " ++ String.ofList (Number.natText 10 fault.offset) ++ ": " ++
        fault.item.message
  | evaluation fault => "Evaluation error: " ++ fault.message
  | templateNotFound name => "Template not found: " ++ name

/-- The error of an expression that stands on its own. -/
def Error.ofExpr (fault : Located Expr.Fault) : Error :=
  malformed ⟨fault.offset, .expression fault.item⟩

end Stencil
