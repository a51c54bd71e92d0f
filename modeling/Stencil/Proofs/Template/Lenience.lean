import Stencil.Engine
import Stencil.Proofs.Expr.Dependence
import Stencil.Proofs.Sequence

/-!
# What can fail

Reading is lenient: names, properties, conversions and operators always give a value.  Only calls,
constructions, `instanceof` and `in` can fail.  A template in which none of them occurs renders with
whatever it is given, and rendering any other one fails with a fault of evaluation if it fails.
-/

namespace Stencil

/-- The operators that refuse some right operands. -/
def BinaryOp.mayFail : BinaryOp → Bool
  | instanceof | .in => true
  | _ => false

theorem BinaryOp.exists_apply {op : BinaryOp} (lenient : op.mayFail = false) (left right : Value)
    (rightText : String) : ∃ v, op.apply left right rightText = .ok v := by
  cases op with
  | instanceof | «in» => cases lenient
  | _ => exact ⟨_, rfl⟩

namespace Expr

mutual

/-- Whether a call, `new`, `instanceof` or `in` occurs in an expression. -/
def mayFail : Expr → Bool
  | literal _ | var _ | loopIndex | this => false
  | array items => anyMayFail items
  | member object _ => object.mayFail
  | index object key => object.mayFail || key.mayFail
  | call _ _ | new _ _ => true
  | unary _ operand => operand.mayFail
  | binary op left right => op.mayFail || left.mayFail || right.mayFail
  | conditional test consequent alternate =>
      test.mayFail || consequent.mayFail || alternate.mayFail

/-- Whether a call, `new`, `instanceof` or `in` occurs in one of several expressions. -/
def anyMayFail : List Expr → Bool
  | [] => false
  | item :: rest => item.mayFail || anyMayFail rest

end

mutual

/-- An expression in which nothing can fail has a value in every environment. -/
theorem exists_eval (env : Environment) : (e : Expr) → e.mayFail = false →
    ∃ v, e.eval env = .ok v
  | literal value, _ => ⟨value, by simp only [eval]⟩
  | var name, _ => ⟨env.lookup name, by simp only [eval]⟩
  | loopIndex, _ => ⟨env.loopIndex, by simp only [eval]⟩
  | this, _ => ⟨.undefined, by simp only [eval]⟩
  | array items, lenient => by
      rcases exists_evalAll env items (by simpa only [mayFail] using lenient) with
        ⟨values, items_eq⟩
      exact ⟨.array values, by simp only [eval, items_eq, ok_bind]⟩
  | member object property, lenient => by
      rcases exists_eval env object (by simpa only [mayFail] using lenient) with
        ⟨value, object_eq⟩
      exact ⟨value.property property, by simp only [eval, object_eq, ok_bind]⟩
  | index object key, lenient => by
      simp only [mayFail, Bool.or_eq_false_iff] at lenient
      rcases exists_eval env object lenient.1 with ⟨value, object_eq⟩
      rcases exists_eval env key lenient.2 with ⟨keyValue, key_eq⟩
      exact ⟨value.index keyValue, by simp only [eval, object_eq, key_eq, ok_bind]⟩
  | call _ _, lenient | new _ _, lenient => by
      simp only [mayFail] at lenient
      cases lenient
  | unary op operand, lenient => by
      rcases exists_eval env operand (by simpa only [mayFail] using lenient) with
        ⟨value, operand_eq⟩
      exact ⟨op.apply value, by simp only [eval, operand_eq, ok_bind]⟩
  | binary op left right, lenient => by
      simp only [mayFail, Bool.or_eq_false_iff] at lenient
      rcases lenient with ⟨⟨opLenient, leftLenient⟩, rightLenient⟩
      rcases exists_eval env left leftLenient with ⟨leftValue, left_eq⟩
      rcases exists_eval env right rightLenient with ⟨rightValue, right_eq⟩
      rcases BinaryOp.exists_apply opLenient leftValue rightValue right.text with ⟨v, applied⟩
      simp only [eval, left_eq, right_eq, ok_bind]
      split
      · exact ⟨_, rfl⟩
      · exact ⟨v, applied⟩
  | conditional test consequent alternate, lenient => by
      simp only [mayFail, Bool.or_eq_false_iff] at lenient
      rcases lenient with ⟨⟨testLenient, consequentLenient⟩, alternateLenient⟩
      rcases exists_eval env test testLenient with ⟨value, test_eq⟩
      simp only [eval, test_eq, ok_bind]
      split
      · exact exists_eval env consequent consequentLenient
      · exact exists_eval env alternate alternateLenient

/-- Expressions in which nothing can fail have values in every environment. -/
theorem exists_evalAll (env : Environment) : (items : List Expr) → anyMayFail items = false →
    ∃ values, evalAll env items = .ok values
  | [], _ => ⟨[], by simp only [evalAll]⟩
  | item :: rest, lenient => by
      simp only [anyMayFail, Bool.or_eq_false_iff] at lenient
      rcases exists_eval env item lenient.1 with ⟨value, item_eq⟩
      rcases exists_evalAll env rest lenient.2 with ⟨values, rest_eq⟩
      exact ⟨value :: values, by simp only [evalAll, item_eq, rest_eq, ok_bind]⟩

end

end Expr

namespace Template

mutual

/-- Whether a call, `new`, `instanceof` or `in` occurs in an expression of a node. -/
def mayFail : Node → Bool
  | .text _ | .index => false
  | .interpolation source _ => source.expr.mayFail
  | .ifThen condition body => condition.expr.mayFail || anyMayFail body
  | .ifElse condition body alternative =>
      condition.expr.mayFail || anyMayFail body || anyMayFail alternative
  | .each _ collection body => collection.expr.mayFail || anyMayFail body

/-- Whether a call, `new`, `instanceof` or `in` occurs in an expression of one of several nodes. -/
def anyMayFail : List Node → Bool
  | [] => false
  | node :: rest => mayFail node || anyMayFail rest

end

mutual

/-- A node in which nothing can fail has an output in every environment. -/
theorem exists_renderNode : (node : Node) → mayFail node = false →
    ∀ env, ∃ out, renderNode env node = .ok out
  | .text s, _, _ => ⟨s, by simp only [renderNode]⟩
  | .index, _, env => ⟨Text.escapeHtml env.loopIndex.text, by simp only [renderNode]⟩
  | .interpolation source escape, lenient, env => by
      rcases source.expr.exists_eval env (by simpa only [mayFail] using lenient) with
        ⟨value, eval_eq⟩
      exact ⟨if escape then Text.escapeHtml value.text else value.text, by
        simp only [renderNode, eval_eq, ok_bind]⟩
  | .ifThen condition body, lenient, env => by
      simp only [mayFail, Bool.or_eq_false_iff] at lenient
      rcases condition.expr.exists_eval env lenient.1 with ⟨value, eval_eq⟩
      simp only [renderNode, eval_eq, ok_bind]
      split
      · exact exists_renderNodes body lenient.2 env
      · exact ⟨"", rfl⟩
  | .ifElse condition body alternative, lenient, env => by
      simp only [mayFail, Bool.or_eq_false_iff] at lenient
      rcases condition.expr.exists_eval env lenient.1.1 with ⟨value, eval_eq⟩
      simp only [renderNode, eval_eq, ok_bind]
      split
      · exact exists_renderNodes body lenient.1.2 env
      · exact exists_renderNodes alternative lenient.2 env
  | .each loopVar collection body, lenient, env => by
      simp only [mayFail, Bool.or_eq_false_iff] at lenient
      rcases collection.expr.exists_eval env lenient.1 with ⟨value, eval_eq⟩
      have turns : ∀ entry ∈ value.entries?.getD [],
          ∃ out, renderNodes (env.push ⟨loopVar, entry.2, entry.1⟩) body = .ok out :=
        fun entry _ => exists_renderNodes body lenient.2 _
      rcases exists_mapM_eq_ok turns with ⟨outputs, turns_eq⟩
      exact ⟨String.join outputs, by simp only [renderNode, eval_eq, turns_eq, ok_bind]⟩

/-- Nodes in which nothing can fail have an output in every environment. -/
theorem exists_renderNodes : (nodes : List Node) → anyMayFail nodes = false →
    ∀ env, ∃ out, renderNodes env nodes = .ok out
  | [], _, _ => ⟨"", by simp only [renderNodes]⟩
  | node :: rest, lenient, env => by
      simp only [anyMayFail, Bool.or_eq_false_iff] at lenient
      rcases exists_renderNode node lenient.1 env with ⟨output, node_eq⟩
      rcases exists_renderNodes rest lenient.2 env with ⟨others, rest_eq⟩
      exact ⟨output ++ others, by simp only [renderNodes, node_eq, rest_eq, ok_bind]⟩

end

/-- A template that fails with something contains what can fail. -/
theorem anyMayFail_of_render_eq_error {template : Template} {host : Host}
    {now : Calendar.Instant} {context globals : Context} {fault : EvalFault}
    (failed : template.render host now context globals = .error fault) :
    anyMayFail template.nodes = true := by
  cases lenient : anyMayFail template.nodes with
  | true => rfl
  | false =>
      rcases exists_renderNodes template.nodes lenient
        (template.environment host now context globals) with ⟨out, rendered⟩
      rw [render, rendered] at failed
      cases failed

/-- Expressions without calls, constructions, `instanceof` and `in` have a value everywhere; and
where rendering fails, one of these occurs in the template, and the error is one of evaluation. -/
theorem eval_ok_and_fault_of_render :
    (∀ e : Expr, e.mayFail = false → ∀ env, ∃ v, e.eval env = .ok v) ∧
      (∀ (template : Template) host now context globals fault,
        template.render host now context globals = .error fault →
          anyMayFail template.nodes = true) ∧
      (∀ (engine : Engine) name template now context globals error,
        engine.get? name = some template →
          engine.render name now context globals = .error error →
            (∃ fault, error = .evaluation fault ∧
              template.render engine.host now context globals = .error fault) ∧
            anyMayFail template.nodes = true) := by
  refine ⟨fun e lenient env => e.exists_eval env lenient, ?_, ?_⟩
  · intro template host now context globals fault failed
    exact anyMayFail_of_render_eq_error failed
  · intro engine name template now context globals error known failed
    rw [Engine.render, known] at failed
    cases rendered : template.render engine.host now context globals with
    | ok out =>
        simp only [rendered] at failed
        cases failed
    | error fault =>
        simp only [rendered] at failed
        cases failed
        exact ⟨⟨fault, rfl, rfl⟩, anyMayFail_of_render_eq_error rendered⟩

/-- A property of a property of nothing is read, and a method of nothing is not called. -/
theorem eval_ok_and_fault_of_render_method :
    (∃ v, (Expr.member (.member (.var "a") "b") "c").eval
        (.ofHost (.standard []) ⟨0, 0⟩) = .ok v) ∧
      ∃ template : Template,
        template.nodes = [.interpolation ⟨"a.b()", .call (.member (.var "a") "b") []⟩ true] ∧
        template.render (.standard []) ⟨0, 0⟩ .empty .empty =
          .error (.memberOfNothing "undefined" "b") ∧
        anyMayFail template.nodes = true ∧
        ∃ fault, (Engine.mk (.standard []) [("t", template)]).render "t" ⟨0, 0⟩ .empty .empty =
            .error (.evaluation fault) ∧
          template.render (.standard []) ⟨0, 0⟩ .empty .empty = .error fault := by
  rcases eval_ok_and_fault_of_render with ⟨values, faults, errors⟩
  have failed : Template.render
      ⟨"", [.interpolation ⟨"a.b()", .call (.member (.var "a") "b") []⟩ true], ["a"], []⟩
      (.standard []) ⟨0, 0⟩ .empty .empty = .error (.memberOfNothing "undefined" "b") := by
    rfl
  have known := errors ⟨.standard [], [("t",
    ⟨"", [.interpolation ⟨"a.b()", .call (.member (.var "a") "b") []⟩ true], ["a"], []⟩)]⟩ "t" _
    ⟨0, 0⟩ .empty .empty _ rfl rfl
  rcases known with ⟨⟨fault, error_eq, fault_eq⟩, _⟩
  exact ⟨values _ rfl _, _, rfl, failed, faults _ _ _ _ _ _ failed, fault, error_eq ▸ rfl, fault_eq⟩

end Template

end Stencil
