import Stencil.Expr.Evaluation

/-!
# What evaluation depends on

The value of an expression depends on an environment only through the names that the expression
mentions, through the index of the innermost loop when `@index` occurs in it, and through the time
that is read.  Everything else about an environment may change without changing the value.
-/

namespace Stencil.Expr

mutual

/-- Whether `@index` occurs in an expression. -/
def mentionsIndex : Expr → Bool
  | literal _ | var _ | this => false
  | loopIndex => true
  | array items => anyMentionsIndex items
  | member object _ => object.mentionsIndex
  | index object key => object.mentionsIndex || key.mentionsIndex
  | call callee args => callee.mentionsIndex || anyMentionsIndex args
  | new target args => target.mentionsIndex || anyMentionsIndex args
  | unary _ operand => operand.mentionsIndex
  | binary _ left right => left.mentionsIndex || right.mentionsIndex
  | conditional test consequent alternate =>
      test.mentionsIndex || consequent.mentionsIndex || alternate.mentionsIndex

/-- Whether `@index` occurs in one of several expressions. -/
def anyMentionsIndex : List Expr → Bool
  | [] => false
  | item :: rest => item.mentionsIndex || anyMentionsIndex rest

end

/-- Two environments give the same answers to everything that an expression with these names can
ask; `asksIndex` tells whether it asks for the index of the loop. -/
structure Agree (names : List String) (asksIndex : Bool) (first second : Environment) : Prop where
  lookup_eq : ∀ name ∈ names, first.lookup name = second.lookup name
  loopIndex_eq : asksIndex = true → first.loopIndex = second.loopIndex
  now_eq : first.now = second.now

namespace Agree

variable {first second : Environment} {names others : List String} {asks alsoAsks : Bool}

/-- Agreement on the whole of an expression is agreement on its left part. -/
theorem left (agree : Agree (names ++ others) (asks || alsoAsks) first second) :
    Agree names asks first second where
  lookup_eq name mem := agree.lookup_eq name (List.mem_append_left others mem)
  loopIndex_eq asked := agree.loopIndex_eq (by rw [asked, Bool.true_or])
  now_eq := agree.now_eq

/-- Agreement on the whole of an expression is agreement on its right part. -/
theorem right (agree : Agree (names ++ others) (asks || alsoAsks) first second) :
    Agree others alsoAsks first second where
  lookup_eq name mem := agree.lookup_eq name (List.mem_append_right names mem)
  loopIndex_eq asked := agree.loopIndex_eq (by rw [asked, Bool.or_true])
  now_eq := agree.now_eq

end Agree

/-- A callee that is no member of anything is called as a function. -/
theorem eval_call_of_ne {env : Environment} {callee : Expr} {args : List Expr}
    (notMember : ∀ object property, callee ≠ member object property)
    (notIndex : ∀ object key, callee ≠ index object key) :
    eval env (call callee args) =
      (do
        let function ← eval env callee
        let args ← evalAll env args
        callValue env callee.text args function) := by
  rw [eval]
  · exact notMember
  · exact notIndex

variable {first second : Environment}

mutual

/-- Environments that agree on an expression give it the same value or the same fault. -/
theorem eval_eq_of_agree : (e : Expr) → Agree e.names e.mentionsIndex first second →
    eval first e = eval second e
  | literal _, _ | this, _ => by simp only [eval]
  | var name, agree => by
      simp only [eval]
      rw [agree.lookup_eq name (by simp [names])]
  | loopIndex, agree => by
      simp only [eval]
      rw [agree.loopIndex_eq rfl]
  | array items, agree => by
      simp only [names, mentionsIndex] at agree
      simp only [eval, evalAll_eq_of_agree items agree]
  | member object _, agree => by
      simp only [names, mentionsIndex] at agree
      simp only [eval, eval_eq_of_agree object agree]
  | index object key, agree => by
      simp only [names, mentionsIndex] at agree
      simp only [eval, eval_eq_of_agree object agree.left, eval_eq_of_agree key agree.right]
  | call callee args, agree => by
      simp only [names, mentionsIndex] at agree
      have callee_eq := eval_eq_of_agree callee agree.left
      have args_eq := evalAll_eq_of_agree args agree.right
      have now_eq := agree.now_eq
      cases callee with
      | member object _ =>
          simp only [names, mentionsIndex] at agree
          simp only [eval, eval_eq_of_agree object agree.left, args_eq, callMethod, now_eq]
      | index object key =>
          simp only [names, mentionsIndex] at agree
          simp only [eval, eval_eq_of_agree object agree.left.left,
            eval_eq_of_agree key agree.left.right, args_eq, callMethod, now_eq]
      | _ =>
          refine (eval_call_of_ne (by simp) (by simp)).trans
            (Eq.trans ?_ (eval_call_of_ne (by simp) (by simp)).symm)
          simp only [callee_eq, args_eq, callValue, now_eq]
  | new target args, agree => by
      simp only [names, mentionsIndex] at agree
      simp only [eval, eval_eq_of_agree target agree.left, evalAll_eq_of_agree args agree.right,
        constructWith, agree.now_eq]
  | unary _ operand, agree => by
      simp only [names, mentionsIndex] at agree
      simp only [eval, eval_eq_of_agree operand agree]
  | binary _ left right, agree => by
      simp only [names, mentionsIndex] at agree
      simp only [eval, eval_eq_of_agree left agree.left, eval_eq_of_agree right agree.right]
  | conditional test consequent alternate, agree => by
      simp only [names, mentionsIndex] at agree
      simp only [eval, eval_eq_of_agree test agree.left.left,
        eval_eq_of_agree consequent agree.left.right, eval_eq_of_agree alternate agree.right]

/-- Environments that agree on several expressions give them the same values or the same fault. -/
theorem evalAll_eq_of_agree : (items : List Expr) →
    Agree (namesOfAll items) (anyMentionsIndex items) first second →
    evalAll first items = evalAll second items
  | [], _ => by simp only [evalAll]
  | item :: rest, agree => by
      simp only [namesOfAll, anyMentionsIndex] at agree
      simp only [evalAll, eval_eq_of_agree item agree.left, evalAll_eq_of_agree rest agree.right]

end

end Stencil.Expr
