import Stencil.Proofs.Expr.Dependence
import Stencil.Proofs.Sequence

/-!
# Other names in an expression

The names in an expression do not matter, only what they stand for.  With other names in an
environment where those stand for the same, an expression has the same value, and it fails when it
failed before.  The wording of a fault shows the names, so the faults themselves may differ.
-/

namespace Stencil

namespace Expr

mutual

/-- An expression with other names.  The names of properties stay. -/
def mapNames (f : String → String) : Expr → Expr
  | literal value => literal value
  | var name => var (f name)
  | loopIndex => loopIndex
  | this => this
  | array items => array (mapNamesOfAll f items)
  | member object property => member (object.mapNames f) property
  | index object key => index (object.mapNames f) (key.mapNames f)
  | call callee args => call (callee.mapNames f) (mapNamesOfAll f args)
  | new target args => new (target.mapNames f) (mapNamesOfAll f args)
  | unary op operand => unary op (operand.mapNames f)
  | binary op left right => binary op (left.mapNames f) (right.mapNames f)
  | conditional test consequent alternate =>
      conditional (test.mapNames f) (consequent.mapNames f) (alternate.mapNames f)

/-- A list of expressions with other names. -/
def mapNamesOfAll (f : String → String) : List Expr → List Expr
  | [] => []
  | item :: rest => item.mapNames f :: mapNamesOfAll f rest

end

mutual

/-- An expression with other names mentions those. -/
theorem names_mapNames (f : String → String) : (e : Expr) → (e.mapNames f).names = e.names.map f
  | literal _ | loopIndex | this => rfl
  | var _ => rfl
  | array items => by
      simp only [mapNames, names, namesOfAll_mapNamesOfAll f items]
  | member object _ => by
      simp only [mapNames, names, names_mapNames f object]
  | index object key => by
      simp only [mapNames, names, names_mapNames f object, names_mapNames f key, List.map_append]
  | call callee args => by
      simp only [mapNames, names, names_mapNames f callee, namesOfAll_mapNamesOfAll f args,
        List.map_append]
  | new target args => by
      simp only [mapNames, names, names_mapNames f target, namesOfAll_mapNamesOfAll f args,
        List.map_append]
  | unary _ operand => by
      simp only [mapNames, names, names_mapNames f operand]
  | binary _ left right => by
      simp only [mapNames, names, names_mapNames f left, names_mapNames f right, List.map_append]
  | conditional test consequent alternate => by
      simp only [mapNames, names, names_mapNames f test, names_mapNames f consequent,
        names_mapNames f alternate, List.map_append]

theorem namesOfAll_mapNamesOfAll (f : String → String) :
    (items : List Expr) → namesOfAll (mapNamesOfAll f items) = (namesOfAll items).map f
  | [] => rfl
  | item :: rest => by
      simp only [mapNamesOfAll, namesOfAll, names_mapNames f item, namesOfAll_mapNamesOfAll f rest,
        List.map_append]

end

/-! ## Texts for messages -/

/-- The printed form of a callee is for messages alone. -/
theorem toOption_callValue {first second : Environment} (now_eq : first.now = second.now)
    (text other : String) (args : Arguments) (callee : Value) :
    (callValue first text args callee).toOption =
      (callValue second other args callee).toOption := by
  cases callee with
  | builtin b =>
      simp only [callValue, now_eq]
      split <;> rfl
  | _ => rfl

theorem toOption_callMethod {first second : Environment}
    (now_eq : first.now = second.now) (text other : String) (receiver : Value)
    (name : String) (args : Arguments) :
    (callMethod first text receiver name args).toOption =
      (callMethod second other receiver name args).toOption := by
  simp only [callMethod, now_eq]
  cases receiver.method? second.now args name with
  | none => rfl
  | some outcome => rfl

theorem toOption_constructWith {first second : Environment}
    (now_eq : first.now = second.now) (text other : String) (args : Arguments)
    (target : Value) :
    (constructWith first text args target).toOption =
      (constructWith second other args target).toOption := by
  cases target with
  | builtin b =>
      simp only [constructWith, now_eq]
      split <;> rfl
  | _ => rfl

theorem toOption_apply (op : BinaryOp) (left right : Value) (text other : String) :
    (op.apply left right text).toOption = (op.apply left right other).toOption := by
  cases op with
  | instanceof => cases right <;> rfl
  | «in» =>
      simp only [BinaryOp.apply]
      split <;> rfl
  | _ => rfl

/-! ## Values -/

/-- What the names of an expression stand for in one environment, the new names stand for in
another. -/
structure Renames (f : String → String) (names : List String) (first second : Environment) :
    Prop where
  lookup_eq : ∀ name ∈ names, first.lookup name = second.lookup (f name)
  loopIndex_eq : first.loopIndex = second.loopIndex
  now_eq : first.now = second.now

namespace Renames

variable {f : String → String} {names others : List String} {first second : Environment}

theorem mono (renames : Renames f names first second) (subset : others ⊆ names) :
    Renames f others first second :=
  ⟨fun name mem => renames.lookup_eq name (subset mem), renames.loopIndex_eq, renames.now_eq⟩

theorem left (renames : Renames f (names ++ others) first second) : Renames f names first second :=
  renames.mono (List.subset_append_left names others)

theorem right (renames : Renames f (names ++ others) first second) :
    Renames f others first second :=
  renames.mono (List.subset_append_right names others)

end Renames

variable {f : String → String} {first second : Environment}

/-- A callee that is no member of anything is none with other names either. -/
theorem toOption_eval_call_of_ne {callee : Expr} {args : List Expr}
    (notMember : ∀ object property, callee ≠ member object property)
    (notIndex : ∀ object key, callee ≠ index object key)
    (callee_eq : (eval first callee).toOption = (eval second (callee.mapNames f)).toOption)
    (args_eq : (evalAll first args).toOption = (evalAll second (mapNamesOfAll f args)).toOption)
    (now_eq : first.now = second.now) :
    (eval first (call callee args)).toOption =
      (eval second ((call callee args).mapNames f)).toOption := by
  have alsoNotMember : ∀ object property, callee.mapNames f ≠ member object property := by
    cases callee with
    | member object property => exact absurd rfl (notMember object property)
    | _ => simp [mapNames]
  have alsoNotIndex : ∀ object key, callee.mapNames f ≠ index object key := by
    cases callee with
    | index object key => exact absurd rfl (notIndex object key)
    | _ => simp [mapNames]
  rw [eval_call_of_ne notMember notIndex, mapNames, eval_call_of_ne alsoNotMember alsoNotIndex]
  simp only [toOption_bind, callee_eq, args_eq,
    toOption_callValue now_eq callee.text (callee.mapNames f).text]

mutual

/-- An expression and its form with other names have the same value or both fail. -/
theorem toOption_eval_mapNames : (e : Expr) → Renames f e.names first second →
    (eval first e).toOption = (eval second (e.mapNames f)).toOption
  | literal _, _ | this, _ => by simp only [mapNames, eval]
  | var name, renames => by
      simp only [mapNames, eval, renames.lookup_eq name (by simp [names])]
  | loopIndex, renames => by
      simp only [mapNames, eval, renames.loopIndex_eq]
  | array items, renames => by
      simp only [names] at renames
      simp only [mapNames, eval, toOption_bind, toOption_evalAll_mapNames items renames]
  | member object _, renames => by
      simp only [names] at renames
      simp only [mapNames, eval, toOption_bind, toOption_eval_mapNames object renames]
  | index object key, renames => by
      simp only [names] at renames
      simp only [mapNames, eval, toOption_bind, toOption_eval_mapNames object renames.left,
        toOption_eval_mapNames key renames.right]
  | call callee args, renames => by
      simp only [names] at renames
      have callee_eq := toOption_eval_mapNames callee renames.left
      have args_eq := toOption_evalAll_mapNames args renames.right
      have now_eq := renames.now_eq
      -- A callee that is a member is not evaluated itself, but its object and its key are.
      cases callee with
      | member object property =>
          simp only [names] at renames
          simp only [mapNames, eval, toOption_bind, toOption_eval_mapNames object renames.left,
            args_eq, toOption_callMethod now_eq (member object property).text
              (member (object.mapNames f) property).text]
      | index object key =>
          simp only [names] at renames
          simp only [mapNames, eval, toOption_bind, toOption_eval_mapNames object renames.left.left,
            toOption_eval_mapNames key renames.left.right, args_eq,
            toOption_callMethod now_eq (index object key).text
              (index (object.mapNames f) (key.mapNames f)).text]
      | _ => exact toOption_eval_call_of_ne (by simp) (by simp) callee_eq args_eq now_eq
  | new target args, renames => by
      simp only [names] at renames
      simp only [mapNames, eval, toOption_bind, toOption_eval_mapNames target renames.left,
        toOption_evalAll_mapNames args renames.right,
        toOption_constructWith renames.now_eq target.text (target.mapNames f).text]
  | unary _ operand, renames => by
      simp only [names] at renames
      simp only [mapNames, eval, toOption_bind, toOption_eval_mapNames operand renames]
  | binary op left right, renames => by
      simp only [names] at renames
      simp only [mapNames, eval, toOption_bind, toOption_eval_mapNames left renames.left]
      refine congrArg (Option.bind _) (funext fun leftValue => ?_)
      cases op.shortcut? leftValue with
      | some value => rfl
      | none =>
          simp only [toOption_bind, toOption_eval_mapNames right renames.right,
            toOption_apply op _ _ right.text (right.mapNames f).text]
  | conditional test consequent alternate, renames => by
      simp only [names] at renames
      simp only [mapNames, eval, toOption_bind, toOption_eval_mapNames test renames.left.left]
      refine congrArg (Option.bind _) (funext fun value => ?_)
      split
      · exact toOption_eval_mapNames consequent renames.left.right
      · exact toOption_eval_mapNames alternate renames.right

theorem toOption_evalAll_mapNames : (items : List Expr) →
    Renames f (namesOfAll items) first second →
    (evalAll first items).toOption = (evalAll second (mapNamesOfAll f items)).toOption
  | [], _ => by simp only [mapNamesOfAll, evalAll]
  | item :: rest, renames => by
      simp only [namesOfAll] at renames
      simp only [mapNamesOfAll, evalAll, toOption_bind, toOption_eval_mapNames item renames.left,
        toOption_evalAll_mapNames rest renames.right]

end

end Expr

end Stencil
