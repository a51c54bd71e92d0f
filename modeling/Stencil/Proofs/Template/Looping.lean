import Stencil.Proofs.Environment.Lookup
import Stencil.Proofs.Expr.Dependence
import Stencil.Proofs.Template.Renderer

/-!
# What a loop does with its entries

A loop renders its body once for every entry, each time in its own environment with one frame more,
so no turn notices a turn before it.  A body that does not read `@index` cannot tell at which place
of an array it is rendered either: a loop over two arrays put together is the loop over the first
one and then the loop over the second one.
-/

namespace Stencil

/-! ## Environments that look alike -/

/-- Two environments answer alike for every name, and for the index of the innermost loop if it is
asked for. -/
structure Environment.Alike (asksIndex : Bool) (first second : Environment) : Prop where
  lookup_eq : ∀ name, first.lookup name = second.lookup name
  loopIndex_eq : asksIndex = true → first.loopIndex = second.loopIndex
  now_eq : first.now = second.now

namespace Template

open Value (turn)

mutual

/-- Whether a node reads the index of the loop that it is in.  In the body of a loop `@index` is the
index of that loop, but its collection is evaluated outside. -/
def readsIndex : Node → Bool
  | .text _ => false
  | .interpolation source _ => source.expr.mentionsIndex
  | .index => true
  | .ifThen condition body => condition.expr.mentionsIndex || anyReadsIndex body
  | .ifElse condition body alternative =>
      condition.expr.mentionsIndex || anyReadsIndex body || anyReadsIndex alternative
  | .each _ collection _ => collection.expr.mentionsIndex

/-- Whether one of several nodes reads the index of the loop that they are in. -/
def anyReadsIndex : List Node → Bool
  | [] => false
  | node :: rest => readsIndex node || anyReadsIndex rest

end

end Template

namespace Environment.Alike

open Value (turn)

variable {asks alsoAsks : Bool} {first second : Environment}

theorem left (alike : Alike (asks || alsoAsks) first second) : Alike asks first second where
  lookup_eq := alike.lookup_eq
  loopIndex_eq asked := alike.loopIndex_eq (by rw [asked, Bool.true_or])
  now_eq := alike.now_eq

theorem right (alike : Alike (asks || alsoAsks) first second) : Alike alsoAsks first second where
  lookup_eq := alike.lookup_eq
  loopIndex_eq asked := alike.loopIndex_eq (by rw [asked, Bool.or_true])
  now_eq := alike.now_eq

/-- Expressions have the same value in environments that look alike. -/
theorem eval_eq {e : Expr} (alike : Alike e.mentionsIndex first second) :
    e.eval first = e.eval second :=
  Expr.eval_eq_of_agree e ⟨fun name _ => alike.lookup_eq name, alike.loopIndex_eq, alike.now_eq⟩

theorem lookup_turn (alike : Alike asks first second) (loopVar : String) (value : Value)
    (index other : Value) (name : String) :
    (turn first loopVar (index, value)).lookup name =
      (turn second loopVar (other, value)).lookup name := by
  by_cases same : loopVar = name
  · subst same
    rw [turn, turn, lookup_push_self, lookup_push_self]
  · rw [turn, turn, lookup_push_of_ne _ _ _ same, lookup_push_of_ne _ _ _ same, alike.lookup_eq]

/-- Inside a loop only the index of that loop is seen. -/
theorem turn (alike : Alike asks first second) (loopVar : String) (entry : Value × Value) :
    Alike alsoAsks (turn first loopVar entry) (turn second loopVar entry) where
  lookup_eq := alike.lookup_turn loopVar entry.2 entry.1 entry.1
  loopIndex_eq _ := rfl
  now_eq := alike.now_eq

theorem self (env : Environment) : Alike asks env env where
  lookup_eq _ := rfl
  loopIndex_eq _ := rfl
  now_eq := rfl

/-- Turns for the same value at different indices look alike as long as the index is not asked
for. -/
theorem ofTurns (env : Environment) (loopVar : String) (value index other : Value) :
    Alike false (Value.turn env loopVar (index, value))
      (Value.turn env loopVar (other, value)) where
  lookup_eq := (Alike.self env : Alike false env env).lookup_turn loopVar value index other
  loopIndex_eq := nofun
  now_eq := rfl

end Environment.Alike

namespace Template

open Value (turn)
open Environment (Alike)

mutual

/-- A node renders alike in environments that look alike. -/
theorem renderNode_eq_of_alike {first second : Environment} : (node : Node) →
    Alike (readsIndex node) first second → renderNode first node = renderNode second node
  | .text _, _ => by
      simp only [renderNode]
  | .interpolation source _, alike => by
      simp only [readsIndex] at alike
      simp only [renderNode, alike.eval_eq]
  | .index, alike => by
      simp only [renderNode, alike.loopIndex_eq rfl]
  | .ifThen condition body, alike => by
      simp only [readsIndex] at alike
      simp only [renderNode, alike.left.eval_eq, renderNodes_eq_of_alike body alike.right]
  | .ifElse condition body alternative, alike => by
      simp only [readsIndex] at alike
      simp only [renderNode, alike.left.left.eval_eq, renderNodes_eq_of_alike body alike.left.right,
        renderNodes_eq_of_alike alternative alike.right]
  | .each loopVar collection body, alike => by
      simp only [readsIndex] at alike
      have turns_eq (entry : Value × Value) :=
        renderNodes_eq_of_alike body (alike.turn loopVar entry)
      simp only [turn] at turns_eq
      simp only [renderNode, alike.eval_eq, turns_eq]

/-- Nodes render alike in environments that look alike. -/
theorem renderNodes_eq_of_alike {first second : Environment} : (nodes : List Node) →
    Alike (anyReadsIndex nodes) first second → renderNodes first nodes = renderNodes second nodes
  | [], _ => by
      simp only [renderNodes]
  | node :: rest, alike => by
      simp only [anyReadsIndex] at alike
      simp only [renderNodes, renderNode_eq_of_alike node alike.left,
        renderNodes_eq_of_alike rest alike.right]

end

/-! ## Two arrays put together -/

/-- A body that does not read the index renders the elements of an array in the same way wherever
the array starts. -/
theorem mapM_positioned {body : List Node} (blind : anyReadsIndex body = false)
    (env : Environment) (loopVar : String) (start : ℕ) (items : List Value) :
    (Value.positioned start items).mapM (fun entry => renderNodes (turn env loopVar entry) body) =
      items.mapM fun value => renderNodes (turn env loopVar (.undefined, value)) body := by
  induction items generalizing start with
  | nil => rfl
  | cons value rest ih =>
      have alike := Alike.ofTurns env loopVar value (Value.nat start) .undefined
      rw [← blind] at alike
      rw [Value.positioned, List.mapM_cons, List.mapM_cons, ih,
        renderNodes_eq_of_alike body alike]

variable {env : Environment}

theorem renderNode_each {loopVar : String} {collection : Source} {body : List Node} {value : Value}
    {entries : List (Value × Value)} (evaluated : collection.expr.eval env = .ok value)
    (listed : value.entries? = some entries) :
    renderNode env (.each loopVar collection body) = (do
      let outputs ← entries.mapM fun entry => renderNodes (turn env loopVar entry) body
      .ok (String.join outputs)) := by
  rw [renderNode, evaluated, ok_bind, listed]
  rfl

theorem renderNode_each_append {body : List Node} (blind : anyReadsIndex body = false)
    (loopVar : String) {whole first second : Source} {items others : List Value}
    (wholeIs : whole.expr.eval env = .ok (.array (items ++ others)))
    (firstIs : first.expr.eval env = .ok (.array items))
    (secondIs : second.expr.eval env = .ok (.array others)) :
    renderNode env (.each loopVar whole body) = (do
      let output ← renderNode env (.each loopVar first body)
      let more ← renderNode env (.each loopVar second body)
      .ok (output ++ more)) := by
  rw [renderNode_each wholeIs rfl, renderNode_each firstIs rfl, renderNode_each secondIs rfl]
  simp only [mapM_positioned blind, List.mapM_append]
  cases items.mapM fun value => renderNodes (turn env loopVar (.undefined, value)) body with
  | error fault => rfl
  | ok outputs =>
      cases others.mapM fun value => renderNodes (turn env loopVar (.undefined, value)) body with
      | error fault => rfl
      | ok more => exact congrArg Except.ok String.join_append

/-! ## The starts of the turns -/

/-- The environments in which the turns of a loop start.  The turns share one stack of frames, and
the first fault ends the loop. -/
def starts (loopVar : String) (body : Emission Unit) :
    Renderer → List (Value × Value) → List Environment
  | _, [] => []
  | r, entry :: rest =>
      (r.enter loopVar entry).env ::
        match (inTurn loopVar body entry).run r with
        | .ok () reached => starts loopVar body reached rest
        | .error _ _ => []

variable {body : Emission Unit} {inside : Environment → Outcome String}

/-- Turns that end well leave the stack to those behind them as they found it. -/
theorem starts_append (emits : Emits body inside) (loopVar : String)
    {before : List (Value × Value)} (r : Renderer)
    (succeed : ∀ entry ∈ before, ∃ output, inside (turn r.env loopVar entry) = .ok output)
    (after : List (Value × Value)) :
    ∃ reached : Renderer, reached.env = r.env ∧ starts loopVar body r (before ++ after) =
      before.map (turn r.env loopVar) ++ starts loopVar body reached after := by
  induction before generalizing r with
  | nil => exact ⟨r, rfl, rfl⟩
  | cons entry rest ih =>
      rcases List.forall_mem_cons.mp succeed with ⟨⟨output, rendered⟩, others⟩
      have ended := emits.forTurn loopVar entry r
      simp only [rendered] at ended
      have ran : (inTurn loopVar body entry).run r = .ok () (r.write output) := ended
      rcases ih (r.write output) others with ⟨reached, env_eq, starts_eq⟩
      refine ⟨reached, env_eq, ?_⟩
      rw [List.cons_append, starts, ran]
      exact congrArg _ starts_eq

/-- A turn that ends with a fault is the last one. -/
theorem starts_of_error (emits : Emits body inside) (loopVar : String) (r : Renderer)
    {entry : Value × Value} {fault : EvalFault}
    (fails : inside (turn r.env loopVar entry) = .error fault) (after : List (Value × Value)) :
    starts loopVar body r (entry :: after) = [turn r.env loopVar entry] := by
  have ended := emits.forTurn loopVar entry r
  simp only [fails] at ended
  rcases ended with ⟨part, ran⟩
  rw [starts, ran]
  rfl

/-- A loop goes through entries: there is one turn for each of them, in their order, until a turn
ends with a fault, and each turn sees the environment of the loop with its own frame and no trace of
the turns before it. -/
structure GoesThrough (env : Environment) (loopVar : String) (collection : Source)
    (body : List Node) (entries : List (Value × Value)) : Prop where
  /-- The output is that of all turns, one after the other. -/
  ok_iff (text : String) :
    renderNode env (.each loopVar collection body) = .ok text ↔
      ∃ outputs, List.Forall₂
        (fun entry output =>
          renderNodes (env.push ⟨loopVar, entry.2, entry.1⟩) body = .ok output) entries outputs ∧
        text = String.join outputs
  /-- The fault is that of the first turn that has one. -/
  error_iff (fault : EvalFault) :
    renderNode env (.each loopVar collection body) = .error fault ↔
      ∃ before entry after, entries = before ++ entry :: after ∧
        (∀ earlier ∈ before, ∃ output,
          renderNodes (env.push ⟨loopVar, earlier.2, earlier.1⟩) body = .ok output) ∧
        renderNodes (env.push ⟨loopVar, entry.2, entry.1⟩) body = .error fault
  /-- On a shared stack the same is written, and the stack is restored in every case. -/
  ends (output : String) :
    Ends ⟨env, output⟩ (renderNode env (.each loopVar collection body))
      ((emitNode (.each loopVar collection body)).run ⟨env, output⟩)
  /-- On a shared stack, too, every turn starts with its own frame alone. -/
  starts_of_ok (output : String) {text : String} :
    renderNode env (.each loopVar collection body) = .ok text →
      starts loopVar (emitNodes body) ⟨env, output⟩ entries =
        entries.map fun entry => env.push ⟨loopVar, entry.2, entry.1⟩
  starts_of_error (output : String) {before after : List (Value × Value)} {entry : Value × Value}
    {fault : EvalFault} :
    entries = before ++ entry :: after →
      (∀ earlier ∈ before, ∃ output,
        renderNodes (env.push ⟨loopVar, earlier.2, earlier.1⟩) body = .ok output) →
      renderNodes (env.push ⟨loopVar, entry.2, entry.1⟩) body = .error fault →
      starts loopVar (emitNodes body) ⟨env, output⟩ entries =
        (before ++ [entry]).map fun entry => env.push ⟨loopVar, entry.2, entry.1⟩

theorem goesThrough_of_entries? {loopVar : String} {collection : Source} {body : List Node}
    {value : Value} {entries : List (Value × Value)}
    (evaluated : collection.expr.eval env = .ok value) (listed : value.entries? = some entries) :
    GoesThrough env loopVar collection body entries where
  ok_iff text := by
    rw [renderNode_each evaluated listed, bind_eq_ok_iff]
    simp only [mapM_eq_ok_iff, Except.ok.injEq, eq_comm (a := text)]
    rfl
  error_iff fault := by
    rw [renderNode_each evaluated listed]
    exact bind_ok_eq_error_iff.trans mapM_eq_error_iff
  ends output := emits_renderNode (.each loopVar collection body) ⟨env, output⟩
  starts_of_ok output text rendered := by
    rw [renderNode_each evaluated listed, bind_eq_ok_iff] at rendered
    rcases rendered with ⟨outputs, mapped, -⟩
    rcases starts_append (emits_renderNodes body) loopVar ⟨env, output⟩
      (fun entry mem => exists_of_mapM_eq_ok mapped mem) [] with ⟨reached, -, starts_eq⟩
    rw [List.append_nil] at starts_eq
    exact starts_eq.trans (List.append_nil _)
  starts_of_error output before after entry fault split earlier fails := by
    rcases starts_append (emits_renderNodes body) loopVar ⟨env, output⟩ earlier
      (entry :: after) with ⟨reached, env_eq, starts_eq⟩
    rw [split, starts_eq, starts_of_error (emits_renderNodes body) loopVar reached
      (by rw [env_eq]; exact fails), env_eq, List.map_append]
    rfl

/-- What a loop does with its entries.

- A loop over two arrays put together is the loop over the first one and then the loop over the
  second one, outputs and faults alike, if the body does not read the index of the loop.
- Arrays, objects and strings, and nothing else, have entries.
- A loop goes through the entries of its collection, whatever its body reads. -/
theorem each_distributes (env : Environment) (loopVar : String) (body : List Node) :
    (anyReadsIndex body = false → ∀ (whole first second : Source) (items others : List Value),
      whole.expr.eval env = .ok (.array (items ++ others)) →
      first.expr.eval env = .ok (.array items) →
      second.expr.eval env = .ok (.array others) →
      renderNode env (.each loopVar whole body) = (do
        let output ← renderNode env (.each loopVar first body)
        let more ← renderNode env (.each loopVar second body)
        .ok (output ++ more))) ∧
    (∀ value : Value, (∃ entries, value.entries? = some entries) ↔
      (∃ items, value = .array items) ∨ (∃ fields, value = .object fields) ∨
        ∃ s, value = .string s) ∧
    (∀ (collection : Source) (value : Value) (entries : List (Value × Value)),
      collection.expr.eval env = .ok value → value.entries? = some entries →
      GoesThrough env loopVar collection body entries) := by
  refine ⟨?_, ?_, ?_⟩
  · intro blind whole first second items others wholeIs firstIs secondIs
    exact renderNode_each_append blind loopVar wholeIs firstIs secondIs
  · intro value
    cases value <;> simp [Value.entries?]
  · intro collection value entries evaluated listed
    exact goesThrough_of_entries? evaluated listed

/-- The body may show the index of a loop in it, and that loop may use the name of the outer
variable once more. -/
theorem each_distributes_nested : ∃ (env : Environment) (body : List Node) (nested : List Node),
    body = [.interpolation ⟨"x", .var "x"⟩ true, .each "x" ⟨"x", .var "x"⟩ nested] ∧
      nested = [.index, .interpolation ⟨"x", .var "x"⟩ true] ∧
      env.lookup "x" = .string "z" ∧
      anyReadsIndex nested = true ∧ anyReadsIndex body = false ∧
      env.lookup "all" = .array [.string "ab", .string "", .string "c"] ∧
      renderNode env (.each "x" ⟨"all", .var "all"⟩ body) = (do
        let output ← renderNode env (.each "x" ⟨"front", .var "front"⟩ body)
        let more ← renderNode env (.each "x" ⟨"back", .var "back"⟩ body)
        .ok (output ++ more)) ∧
      GoesThrough env "x" ⟨"all", .var "all"⟩ body
        [(.nat 0, .string "ab"), (.nat 1, .string ""), (.nat 2, .string "c")] := by
  let env : Environment := {
    host := .standard []
    now := ⟨0, 0⟩
    context := [("all", .array [.string "ab", .string "", .string "c"]),
      ("front", .array [.string "ab"]), ("back", .array [.string "", .string "c"])]
    declared := []
    frames := [⟨"x", .string "z", .nat 7⟩] }
  let nested : List Node := [.index, .interpolation ⟨"x", .var "x"⟩ true]
  rcases each_distributes env "x"
    [.interpolation ⟨"x", .var "x"⟩ true, .each "x" ⟨"x", .var "x"⟩ nested] with
    ⟨splits, -, goesThrough⟩
  refine ⟨env, _, nested, rfl, rfl, rfl, rfl, rfl, rfl, ?_, ?_⟩
  · exact splits rfl ⟨"all", .var "all"⟩ ⟨"front", .var "front"⟩ ⟨"back", .var "back"⟩ _ _
      rfl rfl rfl
  · exact goesThrough ⟨"all", .var "all"⟩ (.array [.string "ab", .string "", .string "c"]) _
      rfl rfl

end Template

end Stencil
