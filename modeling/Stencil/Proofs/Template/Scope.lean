import Stencil.Proofs.Environment.Stack
import Stencil.Proofs.Template.Renderer
import Stencil.Template.Basic

/-!
# Turns and renderings

A rendering that shares its environment with what comes before and behind it begins and ends turns
of its own, but it ends all that it begins, also when it fails inside of them.  So the turns that
are under way, and with them all answers of the environment, are told by the moves outside of the
rendering alone.
-/

namespace Stencil.Template

open Environment

/-- A rendering on a shared stack comes to the end that its nodes have, with all that they give
behind what was written before, and leaves the environment as it was. -/
theorem exists_run_emitNodes (env : Environment) (nodes : List Node) (output : String) :
    ∃ reached : Renderer, reached.env = env ∧
      match renderNodes env nodes with
      | .ok text =>
          (emitNodes nodes).run ⟨env, output⟩ = .ok () reached ∧ reached.output = output ++ text
      | .error fault => (emitNodes nodes).run ⟨env, output⟩ = .error fault reached := by
  have ended := emits_renderNodes nodes ⟨env, output⟩
  dsimp only at ended
  cases rendered : renderNodes env nodes with
  | ok text =>
      rw [rendered] at ended
      exact ⟨_, rfl, ended, rfl⟩
  | error fault =>
      rw [rendered] at ended
      rcases ended with ⟨part, ran⟩
      exact ⟨_, rfl, ran⟩

/-- The answers of an environment are those of the bindings that it was made with and of the turns
that are under way; and a rendering in between, whether it succeeds or fails, changes none of
them. -/
theorem answers_behind_rendering (host : Host) (now : Calendar.Instant) (bindings : List Binding)
    (moves : List Move) :
    let made := ofBindings host now bindings
    let outside := outsideMeaning host bindings
    Answers (made.run moves) outside (underWay moves) ∧
      ∀ (nodes : List Node) (output : String), ∃ reached : Renderer,
        (match renderNodes (made.run moves) nodes with
          | .ok text => (emitNodes nodes).run ⟨made.run moves, output⟩ = .ok () reached ∧
              reached.output = output ++ text
          | .error fault =>
              (emitNodes nodes).run ⟨made.run moves, output⟩ = .error fault reached) ∧
        reached.env.depth = (made.run moves).depth ∧
        ∀ later : List Move,
          Answers (reached.env.run later) outside (underWay (moves ++ later)) := by
  intro made outside
  have answers (all : List Move) : Answers (made.run all) outside (underWay all) := by
    rw [show outside = made.outerLookup from (outerLookup_ofBindings host now bindings).symm]
    exact answers_run (kept_foldl_withBinding (ofHost host now) bindings).2 all
  refine ⟨answers moves, fun nodes output => ?_⟩
  rcases exists_run_emitNodes (made.run moves) nodes output with ⟨reached, env_eq, ends⟩
  refine ⟨reached, ends, congrArg depth env_eq, fun later => ?_⟩
  rw [env_eq, ← run_append]
  exact answers (moves ++ later)

/-- A template is rendered in an environment with two bindings. -/
example (template : Template) (host : Host) (now : Calendar.Instant) (context globals : Context) :
    template.environment host now context globals =
      ofBindings host now
        [.required context template.required, .declared template.declared globals] :=
  rfl

end Stencil.Template
