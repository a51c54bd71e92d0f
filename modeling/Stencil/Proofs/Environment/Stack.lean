import Mathlib.Data.List.Infix
import Stencil.Proofs.Environment.Lookup

/-!
# Turns that begin and end

Turns of loops begin and end in any order, and the end of a turn outside all loops is no change.
What a name stands for after such a run is told by the run alone: a turn is under way as long as the
turns behind its beginning account for all ends behind it.  The frames of these turns, from the last
one to begin to the first, are what the stack of frames holds.

Outside all loops a name stands for what a declaration, the host or a context gives it, in this
order.  Of several bindings of one kind the last one counts.
-/

namespace Stencil

namespace Environment

/-- The beginning of a turn of a loop, or the end of the innermost turn. -/
inductive Move where
  | push (frame : Frame)
  | pop

/-- Whether a move begins a turn. -/
def Move.isPush : Move → Bool
  | push _ => true
  | pop => false

/-- Whether a move ends a turn. -/
def Move.isPop : Move → Bool
  | push _ => false
  | pop => true

/-- The environment after a move. -/
def step (env : Environment) : Move → Environment
  | .push frame => env.push frame
  | .pop => env.pop

/-- The environment after a run of moves. -/
def run (env : Environment) (moves : List Move) : Environment :=
  moves.foldl step env

theorem run_append (env : Environment) (moves later : List Move) :
    env.run (moves ++ later) = (env.run moves).run later :=
  List.foldl_append

/-! ## Turns under way -/

/-- A turn outlasts the moves behind its beginning: up to no place among them are there more ends
than beginnings. -/
def Outlasts (later : List Move) : Prop :=
  ∀ part ∈ later.inits, part.countP Move.isPop ≤ part.countP Move.isPush

instance : DecidablePred Outlasts := fun _ =>
  inferInstanceAs (Decidable (∀ _ ∈ _, _))

/-- The frames of the turns that are under way after a run of moves, the last one to begin first. -/
def underWay : List Move → List Frame
  | [] => []
  | .push frame :: later => if Outlasts later then underWay later ++ [frame] else underWay later
  | .pop :: later => underWay later

/-- How many turns from before a run of moves the run ends. -/
def ended : List Move → Nat
  | [] => 0
  | .push _ :: later => ended later - 1
  | .pop :: later => ended later + 1

theorem forall_prefix_cons_iff {holds : List Move → Prop} {move : Move} {later : List Move} :
    (∀ part, part <+: move :: later → holds part) ↔
      holds [] ∧ ∀ part, part <+: later → holds (move :: part) := by
  simp only [List.prefix_cons_iff, forall_eq_or_imp, forall_exists_index, and_imp]
  exact and_congr_right' ⟨fun all part => all _ part rfl, fun all _ part split => split ▸ all part⟩

/-- A run ends no more than some number of earlier turns if up to no place its ends outnumber its
beginnings by more. -/
theorem ended_le_iff (moves : List Move) (n : Nat) :
    ended moves ≤ n ↔
      ∀ part, part <+: moves → part.countP Move.isPop ≤ part.countP Move.isPush + n := by
  induction moves generalizing n with
  | nil => simp [ended]
  | cons move later ih =>
      rw [forall_prefix_cons_iff]
      cases move with
      | push frame =>
          rw [ended, Nat.sub_le_iff_le_add, ih]
          simp [List.countP_cons, Move.isPop, Move.isPush, Nat.add_right_comm, ← Nat.add_assoc]
      | pop =>
          rw [ended]
          cases n with
          | zero =>
              -- Already the first move ends an earlier turn.
              refine iff_of_false (Nat.not_succ_le_zero _) fun bounded => ?_
              simpa [Move.isPop, Move.isPush] using bounded.2 [] List.nil_prefix
          | succ n =>
              rw [Nat.succ_le_succ_iff, ih]
              simp [List.countP_cons, Move.isPop, Move.isPush, ← Nat.add_assoc]

theorem outlasts_iff (later : List Move) : Outlasts later ↔ ended later = 0 := by
  rw [← Nat.le_zero, ended_le_iff]
  simp only [Outlasts, List.mem_inits, Nat.add_zero]

/-- A run takes the frames of the turns that it ends off the stack and leaves there those of its own
turns that are under way. -/
theorem run_eq (env : Environment) (moves : List Move) :
    env.run moves =
      { env with frames := underWay moves ++ env.frames.drop (ended moves) } := by
  induction moves generalizing env with
  | nil => rfl
  | cons move later ih =>
      rw [run, List.foldl_cons, ← run, ih]
      cases move with
      | push frame =>
          simp only [step, push, underWay, ended, outlasts_iff]
          cases none : ended later with
          | zero => simp
          | succ n => simp
      | pop => simp [step, pop, underWay, ended, Nat.add_comm]

/-- An end outside of all turns does not count against the turns that begin behind it. -/
example (outer inner : Frame) :
    underWay [.pop, .push outer, .push inner, .pop, .pop, .push inner, .push outer, .pop] =
      [inner] :=
  rfl

/-! ## What is answered -/

/-- An environment answers with the last turns to begin: for a name with the last one whose variable
it is and else with what the name stands for outside all loops, for the index with the last one. -/
structure Answers (env : Environment) (outside : String → Value) (frames : List Frame) : Prop where
  lookup_eq (name : String) :
    env.lookup name = ((frames.find? (·.name == name)).map Frame.value).getD (outside name)
  loopIndex_eq : env.loopIndex = (frames.head?.map Frame.index).getD .undefined
  depth_eq : env.depth = frames.length

/-- An environment outside all loops answers after a run with the turns that are under way. -/
theorem answers_run {env : Environment} (outside : env.frames = []) (moves : List Move) :
    Answers (env.run moves) env.outerLookup (underWay moves) := by
  rw [run_eq, outside, List.drop_nil, List.append_nil]
  refine ⟨fun name => ?_, ?_, rfl⟩
  · rw [lookup]
    cases (underWay moves).find? (·.name == name) <;> rfl
  · rw [loopIndex]
    cases underWay moves <;> rfl

/-! ## Bindings -/

/-- Names that are bound from a context, or declared with supplied values. -/
inductive Binding where
  | required (context : Option Context) (names : List String)
  | declared (names : List String) (supplied : Option Context)

/-- The environment with one more binding. -/
def withBinding (env : Environment) : Binding → Environment
  | .required context names => env.withContext (context.getD .empty) names
  | .declared names supplied => env.withDeclared names (supplied.getD .empty)

/-- The environment of a host with bindings, the last one made last. -/
def ofBindings (host : Host) (now : Calendar.Instant) (bindings : List Binding) : Environment :=
  bindings.foldl withBinding (ofHost host now)

/-- The value that a name is declared with. -/
def Binding.declaredValue? (name : String) : Binding → Option Value
  | required _ _ => none
  | declared names supplied =>
      if name ∈ names then some ((supplied.bind (·.get? name)).getD .undefined) else none

/-- The value that a name is bound to from a context. -/
def Binding.contextValue? (name : String) : Binding → Option Value
  | required context names => if name ∈ names then context.bind (·.get? name) else none
  | declared _ _ => none

/-- What a name stands for outside all loops: a declared global for its supplied value, a global of
the host for the value that the host gives it, and a required name for its value in the context.  Of
several bindings of a name the last one counts. -/
def outsideMeaning (host : Host) (bindings : List Binding) (name : String) : Value :=
  match bindings.reverse.findSome? (Binding.declaredValue? name) with
  | some v => v
  | none =>
      if Host.isGlobal name then host.global name
      else (bindings.reverse.findSome? (Binding.contextValue? name)).getD .undefined

theorem get?_getD_empty (context : Option Context) (name : String) :
    (context.getD .empty).get? name = context.bind (·.get? name) := by
  cases context <;> rfl

theorem find?_declared_withBinding (env : Environment) (binding : Binding) (name : String) :
    Fields.find? name (env.withBinding binding).declared =
      (binding.declaredValue? name).or (Fields.find? name env.declared) := by
  cases binding with
  | required context names => rfl
  | declared names supplied =>
      rw [withBinding, find?_declared_withDeclared, get?_getD_empty, Binding.declaredValue?]
      split <;> rfl

theorem find?_context_withBinding (env : Environment) (binding : Binding) {name : String}
    (notGlobal : Host.isGlobal name = false) :
    Fields.find? name (env.withBinding binding).context =
      (binding.contextValue? name).or (Fields.find? name env.context) := by
  cases binding with
  | required context names =>
      rw [withBinding, find?_context_withContext, get?_getD_empty, notGlobal]
      rfl
  | declared names supplied => rfl

/-- What every binding puts in front of its fields is found in the last binding that has it. -/
theorem find?_foldl_withBinding (fields : Environment → List (String × Value))
    {value? : Binding → Option Value} {name : String}
    (find?_eq : ∀ env binding, Fields.find? name (fields (env.withBinding binding)) =
      (value? binding).or (Fields.find? name (fields env)))
    (env : Environment) (bindings : List Binding) :
    Fields.find? name (fields (bindings.foldl withBinding env)) =
      (bindings.reverse.findSome? value?).or (Fields.find? name (fields env)) := by
  induction bindings generalizing env with
  | nil => rfl
  | cons binding rest ih =>
      rw [List.foldl_cons, ih, find?_eq, List.reverse_cons, List.findSome?_append,
        List.findSome?_singleton, Option.or_assoc]

/-- Bindings change neither the host nor the turns. -/
theorem kept_foldl_withBinding (env : Environment) (bindings : List Binding) :
    (bindings.foldl withBinding env).host = env.host ∧
      (bindings.foldl withBinding env).frames = env.frames := by
  induction bindings generalizing env with
  | nil => exact ⟨rfl, rfl⟩
  | cons binding rest ih =>
      rcases ih (env.withBinding binding) with ⟨host_eq, frames_eq⟩
      cases binding <;> exact ⟨host_eq, frames_eq⟩

theorem outerLookup_ofBindings (host : Host) (now : Calendar.Instant) (bindings : List Binding) :
    (ofBindings host now bindings).outerLookup = outsideMeaning host bindings := by
  funext name
  have declared_eq := find?_foldl_withBinding declared
    (fun env binding => find?_declared_withBinding env binding name) (ofHost host now) bindings
  have host_eq : (ofBindings host now bindings).host = host :=
    (kept_foldl_withBinding (ofHost host now) bindings).1
  rw [outerLookup, outsideMeaning, host_eq, ofBindings, declared_eq, ofHost, Fields.find?_nil,
    Option.or_none]
  cases bindings.reverse.findSome? (Binding.declaredValue? name) with
  | some v => rfl
  | none =>
      cases isGlobal : Host.isGlobal name with
      | true => rfl
      | false =>
          have context_eq := find?_foldl_withBinding context
            (fun env binding => find?_context_withBinding env binding isGlobal)
            (ofHost host now) bindings
          rw [ofHost, Fields.find?_nil, Option.or_none] at context_eq
          exact congrArg (·.getD .undefined) context_eq

end Environment

end Stencil
