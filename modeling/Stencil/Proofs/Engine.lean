import Stencil.Engine
import Stencil.Proofs.Template.Compile

/-!
# The last good source of a name

What an engine answers depends on its host and on one thing in the calls before: for every name, the
source of the last call that registered one that compiles.  Everything else that was asked of the
engine, a source that was refused in particular, leaves no trace.
-/

namespace Stencil

namespace Engine

/-- What can be asked of an engine.  A rendering reads the time at which it is asked for. -/
inductive Call where
  | register (name source : String)
  | hasTemplate (name : String)
  | get (name : String)
  | render (name : String) (now : Calendar.Instant) (context : Option Context)
  | renderWithGlobals (name : String) (now : Calendar.Instant) (context : Option Context)
      (globals : Context)

/-- What an engine answers. -/
inductive Answer where
  | registered (result : Except Error Unit)
  | isKnown (known : Bool)
  | template (template : Option Template)
  | output (result : Except Error String)

/-- The answer to a call, and the engine after it. -/
def step (engine : Engine) : Call → Answer × Engine
  | .register name source =>
      match engine.register name source with
      | .ok changed => (.registered (.ok ()), changed)
      | .error error => (.registered (.error error), engine)
  | .hasTemplate name => (.isKnown (engine.hasTemplate name), engine)
  | .get name => (.template (engine.get? name), engine)
  | .render name now context =>
      (.output (engine.render name now (context.getD .empty) .empty), engine)
  | .renderWithGlobals name now context globals =>
      (.output (engine.render name now (context.getD .empty) globals), engine)

/-- The engine after calls. -/
def after (engine : Engine) (calls : List Call) : Engine :=
  calls.foldl (fun engine call => (engine.step call).2) engine

/-- The answers to calls one after the other. -/
def answers (engine : Engine) : List Call → List Answer
  | [] => []
  | call :: rest => (engine.step call).1 :: (engine.step call).2.answers rest

/-! ## The reference -/

/-- The source that a call makes the good one of a name. -/
def Call.goodSource? (name : String) : Call → Option String
  | register other source =>
      if other = name ∧ (Template.compile source).isOk then some source else none
  | _ => none

/-- The source of the last call that registered one that compiles under a name. -/
def lastGood? (past : List Call) (name : String) : Option String :=
  (past.filterMap (Call.goodSource? name)).getLast?

/-- The output of the last good source of a name, compiled afresh. -/
def freshOutput (host : Host) (past : List Call) (name : String) (now : Calendar.Instant)
    (context : Option Context) (globals : Context) : Except Error String :=
  match lastGood? past name with
  | none => .error (.templateNotFound name)
  | some source => do
      let template ← (Template.compile source).mapError .malformed
      (template.render host now (context.getD .empty) globals).mapError .evaluation

/-- The answer to a call by what was called before it. -/
def freshAnswer (host : Host) (past : List Call) : Call → Answer
  | .register _ source =>
      .registered ((Template.compile source).mapError .malformed >>= fun _ => .ok ())
  | .hasTemplate name => .isKnown (lastGood? past name).isSome
  | .get name =>
      .template ((lastGood? past name).bind fun source => (Template.compile source).toOption)
  | .render name now context => .output (freshOutput host past name now context .empty)
  | .renderWithGlobals name now context globals =>
      .output (freshOutput host past name now context globals)

/-- The answers to calls by what was called before each of them. -/
def freshAnswers (host : Host) (past : List Call) : List Call → List Answer
  | [] => []
  | call :: rest => freshAnswer host past call :: freshAnswers host (past ++ [call]) rest

/-! ## Good sources -/

theorem lastGood?_append_singleton (past : List Call) (call : Call) (name : String) :
    lastGood? (past ++ [call]) name = (call.goodSource? name).or (lastGood? past name) := by
  rw [lastGood?, List.filterMap_append, List.getLast?_append, lastGood?]
  cases good : call.goodSource? name with
  | none => simp [good]
  | some source => simp [good]

/-- A good source compiles. -/
theorem exists_compile_of_lastGood? {past : List Call} {name source : String}
    (good : lastGood? past name = some source) :
    ∃ template, Template.compile source = .ok template := by
  rcases List.mem_filterMap.mp (List.mem_of_getLast? good) with ⟨call, _, good⟩
  cases call with
  | register other registered =>
      simp only [Call.goodSource?] at good
      split at good
      · rename_i compiles
        cases good
        cases compiled : Template.compile source with
        | ok template => exact ⟨template, rfl⟩
        | error fault =>
            rw [compiled] at compiles
            cases compiles.2
      · cases good
  | _ => cases good

/-- A source that does not compile is good for nothing. -/
theorem goodSource?_of_refused {source : String} {fault : Located Template.Fault}
    (refused : Template.compile source = .error fault) (name other : String) :
    (Call.register name source).goodSource? other = none := by
  simp [Call.goodSource?, refused, Except.isOk, Except.toBool]

/-! ## One call -/

/-- A call that makes no source good leaves the engine as it is. -/
theorem step_snd_eq_self (engine : Engine) {call : Call}
    (useless : ∀ name, call.goodSource? name = none) : (engine.step call).2 = engine := by
  cases call with
  | register name source =>
      have refused := useless name
      simp only [step, register]
      cases compiled : Template.compile source with
      | ok template => simp [Call.goodSource?, compiled, Except.isOk, Except.toBool] at refused
      | error fault => rfl
  | _ => rfl

theorem after_append_singleton (engine : Engine) (past : List Call) (call : Call) :
    engine.after (past ++ [call]) = ((engine.after past).step call).2 := by
  rw [after, List.foldl_append]
  rfl

/-- An engine keeps the templates of the good sources, and its host. -/
structure Follows (engine : Engine) (host : Host) (past : List Call) : Prop where
  host_eq : engine.host = host
  get?_eq : ∀ name, engine.get? name =
    (lastGood? past name).bind fun source => (Template.compile source).toOption

namespace Follows

variable {engine : Engine} {host : Host} {past : List Call}

theorem start (host : Host) : Follows (ofHost host) host [] :=
  ⟨rfl, fun _ => rfl⟩

/-- A name is known exactly if it has a good source. -/
theorem hasTemplate_eq (follows : Follows engine host past) (name : String) :
    engine.hasTemplate name = (lastGood? past name).isSome := by
  rw [hasTemplate, Fields.contains, ← get?, follows.get?_eq]
  cases good : lastGood? past name with
  | none => rfl
  | some source =>
      rcases exists_compile_of_lastGood? good with ⟨template, compiled⟩
      rw [Option.bind_some, compiled]
      rfl

theorem render_eq (follows : Follows engine host past) (name : String) (now : Calendar.Instant)
    (context : Option Context) (globals : Context) :
    engine.render name now (context.getD .empty) globals =
      freshOutput host past name now context globals := by
  rw [render, follows.get?_eq, follows.host_eq, freshOutput]
  cases good : lastGood? past name with
  | none => rfl
  | some source =>
      rcases exists_compile_of_lastGood? good with ⟨template, compiled⟩
      simp only [Option.bind_some, compiled]
      rfl

/-- A call is answered from the good sources. -/
theorem step_fst_eq (follows : Follows engine host past) (call : Call) :
    (engine.step call).1 = freshAnswer host past call := by
  cases call with
  | register name source =>
      simp only [step, Engine.register, freshAnswer]
      cases Template.compile source with
      | ok template => rfl
      | error fault => rfl
  | hasTemplate name => simp only [step, freshAnswer, follows.hasTemplate_eq]
  | get name => simp only [step, freshAnswer, follows.get?_eq]
  | render name now context => simp only [step, freshAnswer, follows.render_eq]
  | renderWithGlobals name now context globals => simp only [step, freshAnswer, follows.render_eq]

/-- A call that makes no source good changes nothing that there is to follow. -/
theorem skip (follows : Follows engine host past) {call : Call}
    (useless : ∀ name, call.goodSource? name = none) :
    Follows (engine.step call).2 host (past ++ [call]) where
  host_eq := by rw [engine.step_snd_eq_self useless, follows.host_eq]
  get?_eq name := by
    rw [engine.step_snd_eq_self useless, lastGood?_append_singleton, useless, Option.none_or,
      follows.get?_eq]

/-- A source that compiles takes the place of the one before it. -/
theorem replace (follows : Follows engine host past) {source : String} {template : Template}
    (compiled : Template.compile source = .ok template) (name : String) :
    Follows (engine.step (.register name source)).2 host (past ++ [.register name source]) := by
  simp only [Engine.step, Engine.register, compiled]
  constructor
  · exact follows.host_eq
  · intro other
    have kept := follows.get?_eq other
    rw [get?] at kept ⊢
    rw [lastGood?_append_singleton, Fields.find?_insert]
    by_cases same : other = name
    · rw [if_pos same]
      simp [Call.goodSource?, same, compiled, Except.isOk, Except.toBool, Except.toOption]
    · rw [if_neg same, kept]
      simp [Call.goodSource?, Ne.symm same]

/-- An engine goes on following the good sources. -/
theorem step (follows : Follows engine host past) (call : Call) :
    Follows (engine.step call).2 host (past ++ [call]) := by
  cases call with
  | register name source =>
      cases compiled : Template.compile source with
      | ok template => exact follows.replace compiled name
      | error fault => exact follows.skip (goodSource?_of_refused compiled name)
  | _ => exact follows.skip fun _ => rfl

/-! ## Calls one after the other -/

theorem after (follows : Follows engine host past) (calls : List Call) :
    Follows (engine.after calls) host (past ++ calls) := by
  induction calls generalizing engine past with
  | nil => simpa [Engine.after] using follows
  | cons call rest ih => simpa [Engine.after] using ih (follows.step call)

theorem answers_eq (follows : Follows engine host past) (calls : List Call) :
    engine.answers calls = freshAnswers host past calls := by
  induction calls generalizing engine past with
  | nil => rfl
  | cons call rest ih => rw [answers, freshAnswers, follows.step_fst_eq, ih (follows.step call)]

end Follows

/-- An engine answers as one that keeps the last good source of every name and nothing else: a
source that is refused gives its fault and changes no later answer, nor does a call that registers
nothing; a name with a good source is rendered as that source compiled afresh, with the host of the
engine and at the time of the call, and any other name is not found. -/
theorem answers_eq_freshAnswers (host : Host) (past : List Call) :
    (∀ calls, ((ofHost host).after past).answers calls = freshAnswers host past calls) ∧
      (∀ name source fault, Template.compile source = .error fault →
        (((ofHost host).after past).step (.register name source)).1 =
            .registered (.error (.malformed fault)) ∧
          ∀ later, ((ofHost host).after (past ++ [.register name source])).answers later =
            ((ofHost host).after past).answers later) ∧
      (∀ call, (∀ name source, call ≠ .register name source) →
        ∀ later, ((ofHost host).after (past ++ [call])).answers later =
          ((ofHost host).after past).answers later) ∧
      (∀ name source, lastGood? past name = some source →
        ∃ template, Template.compile source = .ok template ∧ ∀ now context globals,
          (((ofHost host).after past).step (.renderWithGlobals name now context globals)).1 =
            .output
              ((template.render host now (context.getD .empty) globals).mapError .evaluation)) ∧
      (∀ name, lastGood? past name = none → ∀ now context globals,
        (((ofHost host).after past).step (.renderWithGlobals name now context globals)).1 =
          .output (.error (.templateNotFound name))) := by
  have follows := (Follows.start host).after past
  rw [List.nil_append] at follows
  refine ⟨follows.answers_eq, ?_, ?_, ?_, ?_⟩
  · intro name source fault refused
    constructor
    · rw [follows.step_fst_eq, freshAnswer, refused]
      rfl
    · intro later
      rw [after_append_singleton, step_snd_eq_self _ (goodSource?_of_refused refused name)]
  · intro call notRegister later
    rw [after_append_singleton, step_snd_eq_self]
    intro name
    cases call with
    | register other source => exact absurd rfl (notRegister other source)
    | _ => rfl
  · intro name source good
    rcases exists_compile_of_lastGood? good with ⟨template, compiled⟩
    refine ⟨template, compiled, fun now context globals => ?_⟩
    rw [follows.step_fst_eq, freshAnswer, freshOutput, good]
    simp only [compiled]
    rfl
  · intro name unknown now context globals
    rw [follows.step_fst_eq, freshAnswer, freshOutput, unknown]

/-- A stray closing tag is refused, and what its name stood for before is rendered still; nothing is
rendered under another name. -/
theorem answers_after_refused_replacement :
    ∃ fault, Template.compile (String.ofList (Template.braced "/if".toList)) = .error fault ∧
      ∀ host now, (((ofHost host).after [.register "a" "<"]).step
          (.register "a" (String.ofList (Template.braced "/if".toList)))).1 =
            .registered (.error (.malformed fault)) ∧
        ((ofHost host).after [.register "a" "<", .get "a",
            .register "a" (String.ofList (Template.braced "/if".toList))]).answers
          [.renderWithGlobals "a" now none .empty, .renderWithGlobals "b" now none .empty] =
            [.output (.ok "<"), .output (.error (.templateNotFound "b"))] := by
  have cuts : Template.Cuts none 0 (Template.braced "/if".toList) _ :=
    .tag ⟨_, rfl, rfl⟩ (by simp) rfl (.plain Template.untagged_nil)
  have scan_eq : Template.scan (Template.normalize
      (String.ofList (Template.braced "/if".toList)).toList) = .ok ⟨[.tag 0 .ifClose], []⟩ :=
    Template.scan_eq_ok_iff.mpr (.inl ⟨rfl, rfl, cuts⟩)
  have refused : Template.compile (String.ofList (Template.braced "/if".toList)) =
      .error ⟨0, .strayIfClose⟩ := by
    rw [Template.compile, scan_eq]
    rfl
  have compiled : Template.compile "<" = .ok ⟨"<", [.text "<"], [], []⟩ :=
    (Template.compile_eq_ok_iff_of_findGlobals? rfl).mpr
      ⟨_, _, Template.cutFrom_of_untagged (by rintro _ _ ⟨⟩), rfl, rfl⟩
  have good : lastGood? [.register "a" "<"] "a" = some "<" := by
    simp [lastGood?, Call.goodSource?, compiled, Except.isOk, Except.toBool]
  have unknown : lastGood? [.register "a" "<"] "b" = none := by
    simp [lastGood?, Call.goodSource?]
  refine ⟨_, refused, fun host now => ?_⟩
  rcases answers_eq_freshAnswers host [.register "a" "<"] with
    ⟨-, refusals, others, known, missing⟩
  rcases answers_eq_freshAnswers host [.register "a" "<", .get "a"] with ⟨-, refusalsLater, -⟩
  rcases known "a" "<" good with ⟨template, compiledAgain, rendered⟩
  rw [compiled] at compiledAgain
  cases compiledAgain
  refine ⟨(refusals "a" _ _ refused).1, ?_⟩
  calc
    _ = ((ofHost host).after [.register "a" "<", .get "a"]).answers _ :=
      (refusalsLater "a" _ _ refused).2 _
    _ = ((ofHost host).after [.register "a" "<"]).answers _ := others (.get "a") (by simp) _
    _ = [(((ofHost host).after [.register "a" "<"]).step
            (.renderWithGlobals "a" now none .empty)).1,
          (((ofHost host).after [.register "a" "<"]).step
            (.renderWithGlobals "b" now none .empty)).1] := rfl
    _ = _ := by rw [rendered, missing "b" unknown]; rfl

end Engine

end Stencil
