import Mathlib.Data.List.Forall2
import Stencil.Proofs.Sequence
import Stencil.Proofs.Value.Enumeration

/-!
# Rendering with one stack of frames

All of a rendering can share one environment and one growing output: a turn of a loop puts its frame
on the stack, renders the body, and takes the innermost frame off again, whether the body ends well
or with a fault.  What is written in this way is what the nodes render to, and the environment is in
the end what it was at the start, also after a fault at any depth.
-/

namespace Stencil.Template

open Value (turn)

/-- A rendering under way: the environment of the place that it has reached, and the output so
far. -/
structure Renderer where
  env : Environment
  output : String

/-- A part of a rendering.  Its fault leaves the rendering where the fault occurred. -/
abbrev Emission :=
  EStateM EvalFault Renderer

namespace Renderer

/-- More output. -/
def write (r : Renderer) (text : String) : Renderer :=
  { r with output := r.output ++ text }

/-- Starts a turn of a loop. -/
def enter (r : Renderer) (loopVar : String) (entry : Value × Value) : Renderer :=
  { r with env := turn r.env loopVar entry }

/-- Ends the turn of the innermost loop. -/
def leave (r : Renderer) : Renderer :=
  { r with env := r.env.pop }

@[simp]
theorem write_write (r : Renderer) (text more : String) :
    (r.write text).write more = r.write (text ++ more) := by
  simp only [write, String.append_assoc]

@[simp]
theorem write_empty (r : Renderer) : r.write "" = r := by
  simp only [write, String.append_empty]

@[simp]
theorem leave_write_enter (r : Renderer) (loopVar : String) (entry : Value × Value)
    (text : String) : ((r.enter loopVar entry).write text).leave = r.write text :=
  rfl

end Renderer

/-! ## Parts of renderings -/

/-- Writes a text. -/
def emit (text : String) : Emission Unit :=
  modify fun r => r.write text

/-- The value of an expression at the place that is reached. -/
def evaluated (source : Source) : Emission Value := fun r =>
  match source.expr.eval r.env with
  | .ok value => .ok value r
  | .error fault => .error fault r

/-- A turn of a loop. -/
def inTurn (loopVar : String) (body : Emission Unit) (entry : Value × Value) : Emission Unit := do
  modify fun r => r.enter loopVar entry
  try body finally modify Renderer.leave

mutual

/-- Renders a node to the output. -/
def emitNode : Node → Emission Unit
  | .text s => emit s
  | .interpolation source escape => do
      let text := (← evaluated source).text
      emit (if escape then Text.escapeHtml text else text)
  | .index => do
      emit (Text.escapeHtml (← get).env.loopIndex.text)
  | .ifThen condition body => do
      if (← evaluated condition).isTruthy then emitNodes body
  | .ifElse condition body alternative => do
      if (← evaluated condition).isTruthy then emitNodes body else emitNodes alternative
  | .each loopVar collection body => do
      match (← evaluated collection).entries? with
      | none => pure ()
      | some entries => entries.forM (inTurn loopVar (emitNodes body))

/-- Renders nodes to the output, one after the other. -/
def emitNodes : List Node → Emission Unit
  | [] => pure ()
  | node :: rest => do
      emitNode node
      emitNodes rest

end

theorem run_evaluated (source : Source) (r : Renderer) :
    (evaluated source).run r =
      match source.expr.eval r.env with
      | .ok value => .ok value r
      | .error fault => .error fault r :=
  rfl

theorem modify_apply (change : Renderer → Renderer) (r : Renderer) :
    (modify change : Emission Unit) r = .ok () (change r) :=
  rfl

/-- A turn takes its frame off the stack also when its body ends with a fault. -/
theorem run_inTurn (loopVar : String) (body : Emission Unit) (entry : Value × Value)
    (r : Renderer) :
    (inTurn loopVar body entry).run r =
      match body.run (r.enter loopVar entry) with
      | .ok () reached => .ok () reached.leave
      | .error fault reached => .error fault reached.leave := by
  simp only [inTurn, EStateM.run, bind, EStateM.bind, tryFinally, tryFinally', Functor.map,
    EStateM.map, modify_apply]
  cases body (r.enter loopVar entry) <;> rfl

/-! ## What a part of a rendering writes -/

/-- The end of a part of a rendering that is to give an outcome.  Everything that it gives is
written; in front of a fault something may have been written as well.  The environment is that of
the start. -/
def Ends (r : Renderer) : Outcome String → EStateM.Result EvalFault Renderer Unit → Prop
  | .ok text, result => result = .ok () (r.write text)
  | .error fault, result => ∃ part, result = .error fault (r.write part)

/-- A part of a rendering writes, wherever it starts, what is to be rendered there. -/
def Emits (action : Emission Unit) (rendering : Environment → Outcome String) : Prop :=
  ∀ r, Ends r (rendering r.env) (action.run r)

namespace Emits

variable {action more body : Emission Unit} {rendering others inside : Environment → Outcome String}

theorem congr (emits : Emits action rendering) (same : ∀ env, rendering env = others env) :
    Emits action others :=
  fun r => same r.env ▸ emits r

theorem nothing : Emits (pure ()) fun _ => .ok "" :=
  fun r => congrArg (EStateM.Result.ok ()) r.write_empty.symm

theorem text (content : Environment → String) :
    Emits (do emit (content (← get).env)) fun env => .ok (content env) :=
  fun _ => rfl

/-- Two parts write one after the other. -/
theorem andThen (emits : Emits action rendering) (emitsMore : Emits more others) :
    Emits (do action; more) (fun env => do
      let output ← rendering env
      let rest ← others env
      .ok (output ++ rest)) := by
  intro r
  have ended := emits r
  rw [EStateM.run_bind]
  cases rendered : rendering r.env with
  | error fault =>
      rw [rendered] at ended
      rcases ended with ⟨part, ran⟩
      simp only [ran, rendered, error_bind]
      exact ⟨part, rfl⟩
  | ok output =>
      rw [rendered] at ended
      have ran : action.run r = .ok () (r.write output) := ended
      have endedMore : Ends (r.write output) (others r.env) (more.run (r.write output)) :=
        emitsMore (r.write output)
      simp only [ran, rendered, ok_bind]
      cases renderedMore : others r.env with
      | error fault =>
          rw [renderedMore] at endedMore
          rcases endedMore with ⟨part, ranMore⟩
          exact ⟨output ++ part, by rw [ranMore, Renderer.write_write]⟩
      | ok rest =>
          rw [renderedMore] at endedMore
          exact Eq.trans endedMore (by rw [Renderer.write_write])

/-- What follows on the value of an expression writes what is to be rendered for the value. -/
theorem evaluating (source : Source) {next : Value → Emission Unit}
    {rendering : Value → Environment → Outcome String}
    (emits : ∀ value, Emits (next value) (rendering value)) :
    Emits (evaluated source >>= next) (fun env => do
      rendering (← source.expr.eval env) env) := by
  intro r
  show Ends r (source.expr.eval r.env >>= fun value => rendering value r.env) _
  rw [EStateM.run_bind, run_evaluated]
  cases source.expr.eval r.env with
  | error fault => exact ⟨"", by rw [Renderer.write_empty]⟩
  | ok value => exact emits value r

/-- A turn of a loop writes what its body renders to in the environment of the turn.  In every case
the environment of the loop is restored. -/
theorem forTurn (emits : Emits body inside) (loopVar : String) (entry : Value × Value) :
    Emits (inTurn loopVar body entry) fun env => inside (turn env loopVar entry) := by
  intro r
  have ended : Ends (r.enter loopVar entry) (inside (turn r.env loopVar entry)) _ :=
    emits (r.enter loopVar entry)
  show Ends r (inside (turn r.env loopVar entry)) _
  rw [run_inTurn]
  cases rendered : inside (turn r.env loopVar entry) with
  | error fault =>
      rw [rendered] at ended
      rcases ended with ⟨part, ran⟩
      rw [ran]
      exact ⟨part, rfl⟩
  | ok text =>
      rw [rendered] at ended
      have ran : body.run _ = .ok () ((r.enter loopVar entry).write text) := ended
      rw [ran]
      rfl

/-- The turns of a loop write one after the other. -/
theorem forTurns (emits : Emits body inside) (loopVar : String) (entries : List (Value × Value)) :
    Emits (entries.forM (inTurn loopVar body)) (fun env => do
      .ok (String.join (← entries.mapM fun entry => inside (turn env loopVar entry)))) := by
  induction entries with
  | nil => exact nothing
  | cons entry rest ih =>
      refine ((emits.forTurn loopVar entry).andThen ih).congr fun env => ?_
      rw [List.mapM_cons]
      cases inside (turn env loopVar entry) with
      | error fault => rfl
      | ok output =>
          cases rest.mapM fun entry => inside (turn env loopVar entry) with
          | error fault => rfl
          | ok outputs => exact congrArg Except.ok String.join_cons.symm

end Emits

mutual

theorem emits_renderNode : (node : Node) → Emits (emitNode node) fun env => renderNode env node
  | .text s => by
      simp only [emitNode, renderNode]
      exact .text fun _ => s
  | .interpolation source escape => by
      simp only [emitNode, renderNode]
      exact .evaluating source fun value => .text fun _ =>
        if escape then Text.escapeHtml value.text else value.text
  | .index => by
      simp only [emitNode, renderNode]
      exact .text fun env => Text.escapeHtml env.loopIndex.text
  | .ifThen condition body => by
      simp only [emitNode, renderNode]
      refine .evaluating condition fun value => ?_
      cases value.isTruthy with
      | false => exact .nothing
      | true => exact emits_renderNodes body
  | .ifElse condition body alternative => by
      simp only [emitNode, renderNode]
      refine .evaluating condition fun value => ?_
      cases value.isTruthy with
      | false => exact emits_renderNodes alternative
      | true => exact emits_renderNodes body
  | .each loopVar collection body => by
      simp only [emitNode, renderNode]
      refine .evaluating collection fun value => ?_
      cases value.entries? with
      | none => exact .nothing
      | some entries => exact (emits_renderNodes body).forTurns loopVar entries

theorem emits_renderNodes : (nodes : List Node) →
    Emits (emitNodes nodes) fun env => renderNodes env nodes
  | [] => by
      simp only [emitNodes, renderNodes]
      exact .nothing
  | node :: rest => by
      simp only [emitNodes, renderNodes]
      exact (emits_renderNode node).andThen (emits_renderNodes rest)

end

end Stencil.Template
