import Stencil.Expr.Evaluation
import Stencil.Template.Node
import Stencil.Text.Html

/-!
# Rendering

Text is written as it stands, and what is computed is escaped unless an interpolation is marked to
stand as it is.  A loop renders its body once for every entry of its collection; what has no entries
is skipped.
-/

namespace Stencil

namespace Template

mutual

/-- The output of a node. -/
def renderNode (env : Environment) : Node → Outcome String
  | .text s => .ok s
  | .interpolation source escape => do
      let text := (← source.expr.eval env).text
      .ok (if escape then Text.escapeHtml text else text)
  | .index => .ok (Text.escapeHtml env.loopIndex.text)
  | .ifThen condition body => do
      if (← condition.expr.eval env).isTruthy then renderNodes env body else .ok ""
  | .ifElse condition body alternative => do
      if (← condition.expr.eval env).isTruthy then renderNodes env body
      else renderNodes env alternative
  | .each loopVar collection body => do
      let entries := (← collection.expr.eval env).entries?.getD []
      let outputs ← entries.mapM fun (index, value) =>
        renderNodes (env.push ⟨loopVar, value, index⟩) body
      .ok (String.join outputs)

/-- The output of nodes, one after the other. -/
def renderNodes (env : Environment) : List Node → Outcome String
  | [] => .ok ""
  | node :: rest => do
      let output ← renderNode env node
      let others ← renderNodes env rest
      .ok (output ++ others)

end

end Template

end Stencil
