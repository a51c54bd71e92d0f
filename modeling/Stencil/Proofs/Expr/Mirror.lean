import Stencil.Proofs.Expr.Recognition
import Stencil.Proofs.Expr.Walk

/-!
# Walks and parsers

Along tokens of which only the last one is an end, a walk does from every place what the parser of
the same name does with the tokens from there on.  It halts with the same fault, or it gives the
same result, comes to the tokens that the parser leaves, and has as many levels open as at its
start.  In particular it comes to an end, because parsers do: some number of calls inside of each
other is enough.

Nothing in the walks tells that number.  What keeps the proof finite is the shape of the parsers:
levels that are left for what is deeper, rows for operators, and the tokens that are left for
repeated steps and lists.
-/

namespace Stencil.Expr

variable {α β γ : Type} {ts : List Lexeme} {depth place : Nat}

/-! ## Ends of walks -/

theorem outcome_bind_of_ok {walk : Walk α} {next : α → Walk β} {start reached : Cursor} {a : α}
    (ends : walk.outcome start = some (.ok a, reached)) :
    (walk >>= next).outcome start = (next a).outcome reached := by
  simp only [Walk.outcome] at ends ⊢
  simp only [bind, ExceptT.bind, ExceptT.mk, StateT.bind, ends]
  rfl

theorem outcome_bind_of_error {walk : Walk α} {next : α → Walk β} {start reached : Cursor}
    {halt : Halt} (ends : walk.outcome start = some (.error halt, reached)) :
    (walk >>= next).outcome start = some (.error halt, reached) := by
  simp only [Walk.outcome] at ends ⊢
  simp only [bind, ExceptT.bind, ExceptT.mk, StateT.bind, ends]
  rfl

theorem outcome_get (start : Cursor) :
    (get : Walk Cursor).outcome start = some (.ok start, start) :=
  rfl

theorem outcome_modify (change : Cursor → Cursor) (start : Cursor) :
    (modify change : Walk Unit).outcome start = some (.ok (), change start) :=
  rfl

/-- Tokens with one end, which is the last of them. -/
def Ended (ts : List Lexeme) : Prop :=
  ∃ body last, ts = body ++ [last] ∧ last.item = .stop ∧ .stop ∉ tokensOf body

theorem Ended.item_eq_stop_iff (ended : Ended ts) (within : place < ts.length) :
    ts[place].item = .stop ↔ place + 1 = ts.length := by
  rcases ended with ⟨body, last, rfl, isStop, noStop⟩
  simp only [List.length_append, List.length_singleton] at within ⊢
  by_cases isLast : place = body.length
  · subst isLast
    simp [isStop]
  · have inside : place < body.length := by omega
    rw [List.getElem_append_left inside]
    refine iff_of_false (fun isEnd => noStop ?_) (by omega)
    exact List.mem_map.mpr ⟨_, List.getElem_mem inside, isEnd⟩

theorem outcome_nextToken (within : place < ts.length) :
    (nextToken ts).outcome ⟨place, depth⟩ = some (.ok ts[place], ⟨place, depth⟩) := by
  have found : ts[min place (ts.length - 1)]? = some ts[place] := by
    rw [Nat.min_eq_left (by omega), List.getElem?_eq_getElem within]
  rw [nextToken, outcome_bind_of_ok (outcome_get _)]
  dsimp only
  rw [found]
  rfl

theorem current_drop (within : place < ts.length) : current (ts.drop place) = ts[place] := by
  rw [List.drop_eq_getElem_cons within, current]

theorem outcome_halt (within : place < ts.length) (fault : Token → Fault) :
    (halt ts fault : Walk α).outcome ⟨place, depth⟩ =
      some (.error (.fault ⟨ts[place].offset, fault ts[place].item⟩), ⟨place, depth⟩) := by
  rw [halt, outcome_bind_of_ok (outcome_nextToken within)]
  rfl

theorem outcome_advance (behind : place + 1 < ts.length) :
    (advance ts).outcome ⟨place, depth⟩ = some (.ok (), ⟨place + 1, depth⟩) := by
  have inside : place < ts.length - 1 := by omega
  rw [advance, outcome_modify, if_pos inside]

theorem take?_drop_cases (accepts : Token → Option α) (within : place < ts.length) :
    (accepts ts[place].item = none ∧ take? accepts (ts.drop place) = none) ∨
      ∃ a shorter, accepts ts[place].item = some a ∧
        take? accepts (ts.drop place) = some ⟨a, ts.drop (place + 1), shorter⟩ := by
  rw [List.drop_eq_getElem_cons within]
  cases accepted : accepts ts[place].item with
  | none => exact .inl ⟨rfl, by simp only [take?, accepted, Option.map_none]⟩
  | some a =>
      exact .inr ⟨a, Nat.lt_succ_self _, rfl, by simp only [take?, accepted, Option.map_some]⟩

/-- A token that is taken is not the last one. -/
theorem Ended.lt_of_accepted (ended : Ended ts) {accepts : Token → Option α}
    (noStop : accepts .stop = none) (within : place < ts.length) {a : α}
    (accepted : accepts ts[place].item = some a) : place + 1 < ts.length := by
  by_contra isLast
  have isStop := (ended.item_eq_stop_iff within).mpr (by omega)
  rw [isStop, noStop] at accepted
  cases accepted

/-- A walk that takes a token takes the one that is taken off the tokens from its place on. -/
theorem Ended.take?_cases (ended : Ended ts) (accepts : Token → Option α)
    (noStop : accepts .stop = none) (within : place < ts.length) (depth : Nat) :
    (take? accepts (ts.drop place) = none ∧
      (walkTake? ts accepts).outcome ⟨place, depth⟩ = some (.ok none, ⟨place, depth⟩)) ∨
    ∃ a shorter, take? accepts (ts.drop place) = some ⟨a, ts.drop (place + 1), shorter⟩ ∧
      place + 1 < ts.length ∧
      (walkTake? ts accepts).outcome ⟨place, depth⟩ = some (.ok (some a), ⟨place + 1, depth⟩) := by
  rw [walkTake?, outcome_bind_of_ok (outcome_nextToken within)]
  rcases take?_drop_cases accepts within with ⟨refused, missed⟩ | ⟨a, shorter, accepted, taken⟩
  · rw [refused]
    exact .inl ⟨missed, rfl⟩
  · have behind := ended.lt_of_accepted noStop within accepted
    rw [accepted]
    exact .inr ⟨a, shorter, taken, behind, outcome_bind_of_ok (outcome_advance behind)⟩

theorem Ended.symbol?_cases (ended : Ended ts) (symbol : Symbol) (within : place < ts.length)
    (depth : Nat) :
    (takeSymbol? symbol (ts.drop place) = none ∧
      (walkSymbol? ts symbol).outcome ⟨place, depth⟩ = some (.ok none, ⟨place, depth⟩)) ∨
    ∃ shorter, takeSymbol? symbol (ts.drop place) = some ⟨(), ts.drop (place + 1), shorter⟩ ∧
      place + 1 < ts.length ∧
      (walkSymbol? ts symbol).outcome ⟨place, depth⟩ =
        some (.ok (some ()), ⟨place + 1, depth⟩) := by
  rcases ended.take?_cases (isSymbol? symbol) rfl within depth with
    missed | ⟨_, taken⟩
  · exact .inl missed
  · exact .inr taken

theorem Ended.property_cases (ended : Ended ts) (within : place < ts.length) (depth : Nat) :
    (take? propertyName? (ts.drop place) = none ∧
      (walkProperty ts).outcome ⟨place, depth⟩ =
        some (.error (.fault ⟨ts[place].offset, .propertyExpected ts[place].item⟩),
          ⟨place, depth⟩)) ∨
    ∃ property shorter,
      take? propertyName? (ts.drop place) = some ⟨property, ts.drop (place + 1), shorter⟩ ∧
      place + 1 < ts.length ∧
      (walkProperty ts).outcome ⟨place, depth⟩ = some (.ok property, ⟨place + 1, depth⟩) := by
  rw [walkProperty]
  rcases ended.take?_cases propertyName? rfl within depth with
    ⟨missed, ends⟩ | ⟨property, shorter, taken, behind, ends⟩
  · rw [outcome_bind_of_ok ends]
    exact .inl ⟨missed, outcome_halt within _⟩
  · rw [outcome_bind_of_ok ends]
    exact .inr ⟨property, shorter, taken, behind, rfl⟩

/-! ## Calls inside of each other -/

/-- A walk comes to an end, and to the same end with all numbers of calls from some number on. -/
def Finishes (walk : Nat → Walk α) (start : Cursor) (ending : Except Halt α) (reached : Cursor) :
    Prop :=
  ∃ enough, ∀ calls, enough ≤ calls → (walk calls).outcome start = some (ending, reached)

section

variable {walk : Nat → Walk α} {next : Nat → α → Walk β} {start middle reached : Cursor} {a : α}

theorem finishes_of_outcome {walk : Walk α} {ending : Except Halt α}
    (ends : walk.outcome start = some (ending, reached)) :
    Finishes (fun _ => walk) start ending reached :=
  ⟨0, fun _ _ => ends⟩

theorem Finishes.bind {ending : Except Halt β} (first : Finishes walk start (.ok a) middle)
    (onward : Finishes (fun calls => next calls a) middle ending reached) :
    Finishes (fun calls => walk calls >>= next calls) start ending reached := by
  rcases first with ⟨enough, first⟩
  rcases onward with ⟨further, onward⟩
  refine ⟨max enough further, fun calls le => ?_⟩
  rw [outcome_bind_of_ok (first calls (Nat.le_trans (Nat.le_max_left _ _) le))]
  exact onward calls (Nat.le_trans (Nat.le_max_right _ _) le)

theorem Finishes.bind_error {halt : Halt} (first : Finishes walk start (.error halt) reached) :
    Finishes (fun calls => walk calls >>= next calls) start (.error halt) reached := by
  rcases first with ⟨enough, first⟩
  exact ⟨enough, fun calls le => outcome_bind_of_error (first calls le)⟩

/-- A call takes one more call than what is called. -/
theorem Finishes.call {body : Nat → Walk α} {ending : Except Halt α}
    (walk_eq : ∀ calls, walk (calls + 1) = body calls)
    (finishes : Finishes body start ending reached) : Finishes walk start ending reached := by
  rcases finishes with ⟨enough, finishes⟩
  refine ⟨enough + 1, fun calls le => ?_⟩
  cases calls with
  | zero => exact absurd le (Nat.not_succ_le_zero _)
  | succ calls =>
      rw [walk_eq]
      exact finishes calls (Nat.le_of_succ_le_succ le)

/-- A walk has one end. -/
theorem Finishes.unique {ending other : Except Halt α}
    (first : Finishes walk start ending reached) (second : Finishes walk start other middle) :
    ending = other ∧ reached = middle := by
  rcases first with ⟨enough, first⟩
  rcases second with ⟨further, second⟩
  have same := (first _ (Nat.le_max_left enough further)).symm.trans
    (second _ (Nat.le_max_right enough further))
  exact Prod.mk.inj (Option.some.inj same)

end

/-! ## Walks that follow parsers -/

/-- A walk ends as a reading does: with the same fault at one of the tokens, or with what agrees
with the result. -/
def Follows (ts : List Lexeme) (agrees : γ → α → Cursor → Prop) (walk : Nat → Walk α)
    (start : Cursor) : Except (Located Fault) γ → Prop
  | .ok c => ∃ a reached, Finishes walk start (.ok a) reached ∧ agrees c a reached
  | .error fault => ∃ reached, Finishes walk start (.error (.fault fault)) reached ∧
      reached.place < ts.length

/-- A walk has given what a parser gives and has come to the tokens that the parser leaves, among
which there still is one, with as many levels open as at its start. -/
structure Arrives (ts : List Lexeme) (depth : Nat) {bound : Nat} (parsed : Parsed α bound) (a : α)
    (reached : Cursor) : Prop where
  result_eq : parsed.result = a
  rest_eq : parsed.rest = ts.drop reached.place
  within : reached.place < ts.length
  depth_eq : reached.depth = depth

/-- A step has not been taken at all, or it arrives where the step of a parser does. -/
inductive Steps (ts : List Lexeme) (start : Cursor) {bound : Nat} :
    Option (Parsed α bound) → Option α → Cursor → Prop where
  | none : Steps ts start none none start
  | some {parsed : Parsed α bound} {a : α} {reached : Cursor} :
      Arrives ts start.depth parsed a reached → Steps ts start (some parsed) (some a) reached

section

variable {walk : Nat → Walk α} {next : Nat → α → Walk β} {start middle : Cursor}

/-- What ends as a walk does follows what the walk follows. -/
theorem Follows.mono {agrees : γ → α → Cursor → Prop} {other : Nat → Walk α}
    {read : Except (Located Fault) γ}
    (finish : ∀ {ending reached}, Finishes walk middle ending reached →
      Finishes other start ending reached)
    (follows : Follows ts agrees walk middle read) : Follows ts agrees other start read := by
  cases read with
  | error fault =>
      rcases follows with ⟨reached, finishes, inside⟩
      exact ⟨reached, finish finishes, inside⟩
  | ok c =>
      rcases follows with ⟨a, reached, finishes, agreed⟩
      exact ⟨a, reached, finish finishes, agreed⟩

theorem Follows.call {agrees : γ → α → Cursor → Prop} {body : Nat → Walk α}
    {read : Except (Located Fault) γ} (walk_eq : ∀ calls, walk (calls + 1) = body calls)
    (follows : Follows ts agrees body start read) : Follows ts agrees walk start read :=
  follows.mono (Finishes.call walk_eq)

/-- Behind what a walk begins with, only the rest of it matters. -/
theorem Follows.behind {agrees : γ → β → Cursor → Prop} {read : Except (Located Fault) γ}
    {first : Walk α} {a : α} (ends : first.outcome start = some (.ok a, middle))
    (follows : Follows ts agrees (fun calls => next calls a) middle read) :
    Follows ts agrees (fun calls => first >>= next calls) start read :=
  follows.mono (finishes_of_outcome ends).bind

/-- What follows on a walk follows what a parser goes on with. -/
theorem Follows.bind {bound : Nat} {read : Except (Located Fault) (Parsed α bound)}
    {further : Parsed α bound → Except (Located Fault) γ} {agrees : γ → β → Cursor → Prop}
    (follows : Follows ts (Arrives ts depth) walk start read)
    (onward : ∀ a place shorter, place < ts.length →
      Follows ts agrees (fun calls => next calls a) ⟨place, depth⟩
        (further ⟨a, ts.drop place, shorter⟩)) :
    Follows ts agrees (fun calls => walk calls >>= next calls) start (read >>= further) := by
  cases read with
  | error fault =>
      rcases follows with ⟨reached, finishes, inside⟩
      exact ⟨reached, finishes.bind_error, inside⟩
  | ok parsed =>
      rcases follows with ⟨a, ⟨place, _⟩, finishes, rfl, rest_eq, within, rfl⟩
      rcases parsed with ⟨a, rest, shorter⟩
      dsimp only at rest_eq
      subst rest_eq
      exact (onward a place shorter within).mono finishes.bind

/-- The bound of what is read does not matter. -/
theorem Follows.widen {bound larger : Nat} {read : Except (Located Fault) (Parsed α bound)}
    (follows : Follows ts (Arrives ts depth) walk start read) (le : bound ≤ larger) :
    Follows ts (Arrives ts depth) walk start (read >>= fun parsed => .ok (parsed.widen le)) := by
  cases read with
  | error fault => exact follows
  | ok parsed =>
      rcases follows with ⟨a, reached, finishes, result_eq, rest_eq, within, depth_eq⟩
      exact ⟨a, reached, finishes, result_eq, rest_eq, within, depth_eq⟩

end

/-- A walk does from every place what a parser does with the tokens from there on. -/
def Mirrors (ts : List Lexeme) (depth : Nat) (walk : Nat → Walk α) (parser : Parser α) : Prop :=
  ∀ place, place < ts.length →
    Follows ts (Arrives ts depth) walk ⟨place, depth⟩ (parser (ts.drop place))

/-- The same for a step that extends a result. -/
def MirrorsStep (ts : List Lexeme) (depth : Nat) (walk : Nat → Walk (Option α))
    (step : (ts : List Lexeme) → Except (Located Fault) (Option (Parsed α ts.length))) : Prop :=
  ∀ place, place < ts.length →
    Follows ts (Steps ts ⟨place, depth⟩) walk ⟨place, depth⟩ (step (ts.drop place))

theorem follows_halt (within : place < ts.length) (fault : Token → Fault)
    {agrees : γ → α → Cursor → Prop} :
    Follows ts agrees (fun _ => halt ts fault) ⟨place, depth⟩ (faultAt (ts.drop place) fault) := by
  rw [faultAt, current_drop within]
  exact ⟨_, finishes_of_outcome (outcome_halt within fault), within⟩

theorem follows_pure {bound : Nat} {a : α} {parsed : Parsed α bound} (within : place < ts.length)
    (result_eq : parsed.result = a) (rest_eq : parsed.rest = ts.drop place) :
    Follows ts (Arrives ts depth) (fun _ => pure a) ⟨place, depth⟩ (.ok parsed) :=
  ⟨_, _, finishes_of_outcome rfl, result_eq, rest_eq, within, rfl⟩

theorem follows_step {bound : Nat} {a : α} {parsed : Parsed α bound} {start : Cursor}
    (within : place < ts.length) (result_eq : parsed.result = a)
    (rest_eq : parsed.rest = ts.drop place) :
    Follows ts (Steps ts start) (fun _ => pure (some a)) ⟨place, start.depth⟩
      (.ok (some parsed)) :=
  ⟨_, _, finishes_of_outcome rfl, .some ⟨result_eq, rest_eq, within, rfl⟩⟩

theorem follows_no_step {bound : Nat} {start : Cursor} :
    Follows ts (Steps ts start) (fun _ => pure none) start
      (.ok (none : Option (Parsed α bound))) :=
  ⟨_, _, finishes_of_outcome rfl, .none⟩

theorem Ended.mirrors_expect (ended : Ended ts) (symbol : Symbol) :
    Mirrors ts depth (fun _ => walkExpect ts symbol) (expect symbol) := by
  intro place within
  rw [expect]
  rcases ended.symbol?_cases symbol within depth with
    ⟨refused, ends⟩ | ⟨shorter, taken, behind, ends⟩
  · rw [refused]
    exact .behind ends (follows_halt within _)
  · rw [taken]
    exact .behind ends (follows_pure behind rfl rfl)

/-! ## Repeated steps -/

theorem extend_eq (step : Step α) (a : α) (ts : List Lexeme) :
    extend step a ts = step a ts >>= fun
      | none => .ok ⟨a, ts, Nat.lt_succ_self _⟩
      | some next => extend step next.result next.rest >>= fun last =>
          .ok (last.widen (Nat.succ_le_succ (Nat.le_of_lt next.rest_lt))) := by
  rw [extend]
  cases step a ts with
  | error fault => rfl
  | ok next? =>
      cases next? with
      | none => rfl
      | some next =>
          simp only [ok_bind]
          cases extend step next.result next.rest <;> rfl

theorem extending_eq (first : Parser α) (step : Step α) (ts : List Lexeme) :
    extending first step ts = first ts >>= fun start =>
      extend step start.result start.rest >>= fun last => .ok (last.widen start.rest_lt) := by
  rw [extending]
  cases first ts with
  | error fault => rfl
  | ok start =>
      simp only [ok_bind]
      cases extend step start.result start.rest <;> rfl

section

variable {stepWalk : α → Nat → Walk (Option α)} {loop : α → Nat → Walk α} {step : Step α}

/-- Repeating a step follows the repetition of what the step mirrors. -/
theorem follows_extend
    (loop_eq : ∀ a calls, loop a (calls + 1) = stepWalk a calls >>= fun next? =>
      next?.elim (pure a) (loop · calls))
    (steps : ∀ a, MirrorsStep ts depth (stepWalk a) (step a)) (a : α)
    (within : place < ts.length) :
    Follows ts (Arrives ts depth) (loop a) ⟨place, depth⟩ (extend step a (ts.drop place)) := by
  induction remaining : ts.length - place using Nat.strongRecOn generalizing a place with
  | _ n ih =>
      have stepped := steps a place within
      rw [extend_eq]
      refine .call (loop_eq a) ?_
      cases applied : step a (ts.drop place) with
      | error fault =>
          rw [applied] at stepped
          rcases stepped with ⟨reached, finishes, inside⟩
          exact ⟨reached, finishes.bind_error, inside⟩
      | ok next? =>
          rw [applied] at stepped
          rcases stepped with ⟨_, _, finishes, agrees⟩
          refine .mono finishes.bind ?_
          cases agrees with
          | none => exact follows_pure within rfl rfl
          | @some parsed b reached arrives =>
              rcases parsed with ⟨b, rest, shorter⟩
              cases arrives.result_eq
              cases arrives.depth_eq
              cases arrives.rest_eq
              rw [List.length_drop, List.length_drop] at shorter
              exact (ih _ (by omega) b arrives.within rfl).widen _

theorem Mirrors.extending {first : Nat → Walk α} {parser : Parser α}
    (mirrors : Mirrors ts depth first parser)
    (loop_eq : ∀ a calls, loop a (calls + 1) = stepWalk a calls >>= fun next? =>
      next?.elim (pure a) (loop · calls))
    (steps : ∀ a, MirrorsStep ts depth (stepWalk a) (step a)) :
    Mirrors ts depth (fun calls => first calls >>= (loop · calls)) (extending parser step) := by
  intro place within
  rw [extending_eq]
  exact (mirrors place within).bind fun a place shorter inside =>
    (follows_extend loop_eq steps a inside).widen shorter

end

theorem walkOperators_eq (ts : List Lexeme) (row : List BinaryOp) (tighter : List (List BinaryOp))
    (left : Expr) (calls : Nat) :
    walkOperators ts row tighter left (calls + 1) =
      walkOperator ts row tighter left calls >>= fun next? =>
        next?.elim (pure left) (walkOperators ts row tighter · calls) := by
  rw [walkOperators]
  exact bind_congr fun next? => by cases next? <;> rfl

theorem walkPostfixSteps_eq (ts : List Lexeme) (object : Expr) (calls : Nat) :
    walkPostfixSteps ts object (calls + 1) = walkPostfixStep ts object calls >>= fun next? =>
      next?.elim (pure object) (walkPostfixSteps ts · calls) := by
  rw [walkPostfixSteps]
  exact bind_congr fun next? => by cases next? <;> rfl

theorem walkAccessSteps_eq (ts : List Lexeme) (object : Expr) (calls : Nat) :
    walkAccessSteps ts object (calls + 1) = walkAccessStep ts object calls >>= fun next? =>
      next?.elim (pure object) (walkAccessSteps ts · calls) := by
  rw [walkAccessSteps]
  exact bind_congr fun next? => by cases next? <;> rfl

theorem listUntil_eq (close : Symbol) (element : Parser α) (ts : List Lexeme) :
    listUntil close element ts =
      match takeSymbol? close ts with
      | some closed => .ok (closed.withResult [])
      | none => element ts >>= fun first =>
          match takeSymbol? .comma first.rest with
          | none => expect close first.rest >>= fun closed =>
              .ok ((closed.withResult [first.result]).widen (Nat.le_of_lt first.rest_lt))
          | some comma => listUntil close element comma.rest >>= fun others =>
              .ok ((others.withResult (first.result :: others.result)).widen
                (Nat.le_of_lt (Nat.lt_trans comma.rest_lt first.rest_lt))) := by
  rw [listUntil]
  cases takeSymbol? close ts with
  | some closed => rfl
  | none =>
      cases element ts with
      | error fault => rfl
      | ok first =>
          simp only [ok_bind]
          cases takeSymbol? .comma first.rest with
          | none =>
              dsimp only
              cases expect close first.rest <;> rfl
          | some comma =>
              dsimp only
              cases listUntil close element comma.rest <;> rfl

theorem Ended.mirrors_listUntil (ended : Ended ts) {element : Parser Expr}
    (mirrors : Mirrors ts depth (walkConditional ts) element) (close : Symbol) :
    Mirrors ts depth (walkList ts close) (listUntil close element) := by
  intro place within
  induction remaining : ts.length - place using Nat.strongRecOn generalizing place with
  | _ n ih =>
      rw [listUntil_eq]
      refine .call (fun calls => by rw [walkList]) ?_
      rcases ended.symbol?_cases close within depth with
        ⟨refused, ends⟩ | ⟨shorter, taken, behind, ends⟩
      · rw [refused]
        refine .behind ends ((mirrors place within).bind fun first further shorter inside => ?_)
        rw [List.length_drop, List.length_drop] at shorter
        rcases ended.symbol?_cases .comma inside depth with
          ⟨refused, ends⟩ | ⟨_, taken, behind, ends⟩
        · dsimp only
          rw [refused]
          exact .behind ends ((ended.mirrors_expect close further inside).bind
            fun _ _ _ behind => follows_pure behind rfl rfl)
        · dsimp only
          rw [taken]
          exact .behind ends ((ih _ (by omega) (further + 1) behind rfl).bind
            fun _ _ _ behind => follows_pure behind rfl rfl)
      · rw [taken]
        exact .behind ends (follows_pure behind rfl rfl)

/-! ## Levels -/

theorem outcome_enter (below : depth < levelLimit) :
    (enter ts).outcome ⟨place, depth⟩ = some (.ok (), ⟨place, depth + 1⟩) := by
  have fits : ¬ levelLimit < depth + 1 := by omega
  rw [enter, outcome_bind_of_ok (outcome_modify _ _), outcome_bind_of_ok (outcome_get _),
    if_neg fits]
  rfl

/-- A level that may be opened is closed again behind what is walked in it. -/
theorem Mirrors.inLevel {walk : Nat → Walk α} {parser : Parser α} (below : depth < levelLimit)
    (mirrors : Mirrors ts (depth + 1) walk parser) :
    Mirrors ts depth (fun calls => inLevel ts (walk calls)) parser := by
  intro place within
  refine .behind (outcome_enter below) ?_
  have inside := mirrors place within
  cases read : parser (ts.drop place) with
  | error fault =>
      rw [read] at inside
      rcases inside with ⟨reached, finishes, behind⟩
      exact ⟨reached, finishes.bind_error, behind⟩
  | ok parsed =>
      rw [read] at inside
      rcases inside with ⟨a, ⟨further, _⟩, finishes, result_eq, rest_eq, behind, rfl⟩
      exact ⟨a, _, finishes.bind (finishes_of_outcome rfl), result_eq, rest_eq, behind, rfl⟩

/-- Where all levels are open no walk one level deeper begins. -/
theorem mirrors_tooDeep {walk : Nat → Walk α} (above : levelLimit ≤ depth) :
    Mirrors ts depth (fun calls => inLevel ts (walk calls)) fun ts =>
      faultAt ts fun _ => .tooDeep := by
  intro place within
  have exceeds : levelLimit < depth + 1 := by omega
  have ends : (enter ts).outcome ⟨place, depth⟩ =
      some (.error (.fault ⟨ts[place].offset, .tooDeep⟩), ⟨place, depth + 1⟩) := by
    rw [enter, outcome_bind_of_ok (outcome_modify _ _), outcome_bind_of_ok (outcome_get _),
      if_pos exceeds]
    exact outcome_halt within _
  dsimp only
  rw [faultAt, current_drop within]
  exact ⟨_, (finishes_of_outcome ends).bind_error, within⟩

/-- The walks one level deeper than a place with some open levels mirror the parsers of a level. -/
structure MirrorsLevel (ts : List Lexeme) (depth : Nat) (l : Level) : Prop where
  branches : Mirrors ts depth (fun calls => inLevel ts (walkBranches ts calls)) l.nested
  operand : Mirrors ts depth (fun calls => inLevel ts (walkUnary ts calls)) l.operand
  target : Mirrors ts depth (fun calls => inLevel ts (walkTarget ts calls)) l.construction
  items : Mirrors ts depth (fun calls => inLevel ts (walkList ts .rightBracket calls)) l.items

variable {l : Level}

theorem MirrorsLevel.nested (mirrors : MirrorsLevel ts depth l) :
    Mirrors ts depth (walkConditional ts) l.nested := fun place within =>
  .call (fun calls => by rw [walkConditional]) (mirrors.branches place within)

theorem MirrorsLevel.primary (mirrors : MirrorsLevel ts depth l) (ended : Ended ts) :
    Mirrors ts depth (walkPrimary ts) (primary l) := by
  intro place within
  rw [Expr.primary]
  refine .call (fun calls => by rw [walkPrimary]) ?_
  rcases ended.symbol?_cases .leftParen within depth with
    ⟨noParen, ends⟩ | ⟨_, paren, behind, ends⟩
  · rw [noParen]
    refine .behind ends ?_
    rcases ended.symbol?_cases .leftBracket within depth with
      ⟨noBracket, ends⟩ | ⟨_, bracket, behind, ends⟩
    · rw [noBracket]
      refine .behind ends ?_
      rcases ended.take?_cases atom? rfl within depth with
        ⟨noAtom, ends⟩ | ⟨e, _, atom, behind, ends⟩
      · rw [noAtom]
        exact .behind ends (follows_halt within _)
      · rw [atom]
        exact .behind ends (follows_pure behind rfl rfl)
    · rw [bracket]
      exact .behind ends ((mirrors.items _ behind).bind fun _ _ _ closed =>
        follows_pure closed rfl rfl)
  · rw [paren]
    refine .behind ends ((mirrors.nested _ behind).bind fun _ _ _ inside => ?_)
    exact (ended.mirrors_expect .rightParen _ inside).bind fun _ _ _ closed =>
      follows_pure closed rfl rfl

theorem MirrorsLevel.base (mirrors : MirrorsLevel ts depth l) (ended : Ended ts) :
    Mirrors ts depth (walkBase ts) (base l) := by
  intro place within
  rw [Expr.base]
  refine .call (fun calls => by rw [walkBase]) (.behind (outcome_nextToken within) ?_)
  rcases take?_drop_cases isNew? within with ⟨refused, missed⟩ | ⟨_, shorter, accepted, taken⟩
  · rw [refused, missed]
    exact mirrors.primary ended place within
  · have behind := ended.lt_of_accepted rfl within accepted
    rw [accepted, taken]
    refine .call (fun calls => by rw [walkNew]) (.behind (outcome_advance behind) ?_)
    exact (mirrors.target _ behind).widen _

theorem MirrorsLevel.accessStep (mirrors : MirrorsLevel ts depth l) (ended : Ended ts)
    (object : Expr) :
    MirrorsStep ts depth (walkAccessStep ts object) (accessStep l object) := by
  intro place within
  rw [Expr.accessStep]
  refine .call (fun calls => by rw [walkAccessStep]) ?_
  rcases ended.symbol?_cases .dot within depth with ⟨noDot, ends⟩ | ⟨_, dot, behind, ends⟩
  · rw [noDot]
    refine .behind ends ?_
    rcases ended.symbol?_cases .leftBracket within depth with
      ⟨noBracket, ends⟩ | ⟨_, bracket, behind, ends⟩
    · rw [noBracket]
      exact .behind ends follows_no_step
    · rw [bracket]
      refine .behind ends ((mirrors.nested _ behind).bind fun _ _ _ inside => ?_)
      exact (ended.mirrors_expect .rightBracket _ inside).bind fun _ _ _ closed =>
        follows_step closed rfl rfl
  · rw [dot]
    refine .behind ends ?_
    rcases ended.property_cases behind depth with
      ⟨noName, ends⟩ | ⟨property, _, name, inside, ends⟩
    · dsimp only
      rw [noName, faultAt, current_drop behind]
      exact ⟨_, (finishes_of_outcome ends).bind_error, behind⟩
    · dsimp only
      rw [name]
      exact .behind ends (follows_step inside rfl rfl)

theorem MirrorsLevel.postfixStep (mirrors : MirrorsLevel ts depth l) (ended : Ended ts)
    (object : Expr) :
    MirrorsStep ts depth (walkPostfixStep ts object) (postfixStep l object) := by
  intro place within
  rw [Expr.postfixStep]
  refine .call (fun calls => by rw [walkPostfixStep]) ?_
  rcases ended.symbol?_cases .leftParen within depth with ⟨noParen, ends⟩ | ⟨_, paren, behind, ends⟩
  · rw [noParen]
    exact .behind ends (mirrors.accessStep ended object place within)
  · rw [paren]
    exact .behind ends ((ended.mirrors_listUntil mirrors.nested .rightParen _ behind).bind
      fun _ _ _ closed => follows_step closed rfl rfl)

theorem MirrorsLevel.postfixed (mirrors : MirrorsLevel ts depth l) (ended : Ended ts) :
    Mirrors ts depth (walkPostfix ts) (postfixed l) := by
  intro place within
  rw [Expr.postfixed]
  refine .call (fun calls => by rw [walkPostfix]) ?_
  exact (mirrors.base ended).extending (walkPostfixSteps_eq ts) (mirrors.postfixStep ended)
    place within

theorem MirrorsLevel.construction (mirrors : MirrorsLevel ts depth l) (ended : Ended ts) :
    Mirrors ts depth (walkTarget ts) (construction l) := by
  intro place within
  rw [Expr.construction]
  refine .call (fun calls => by rw [walkTarget, ← bind_assoc]) ?_
  refine ((mirrors.base ended).extending (walkAccessSteps_eq ts) (mirrors.accessStep ended)
    place within).bind fun target further _ inside => ?_
  dsimp only
  rcases ended.symbol?_cases .leftParen inside depth with ⟨noParen, ends⟩ | ⟨_, paren, behind, ends⟩
  · rw [noParen]
    exact .behind ends (follows_pure inside rfl rfl)
  · rw [paren]
    exact .behind ends ((ended.mirrors_listUntil mirrors.nested .rightParen _ behind).bind
      fun _ _ _ closed => follows_pure closed rfl rfl)

theorem MirrorsLevel.unaries (mirrors : MirrorsLevel ts depth l) (ended : Ended ts) :
    Mirrors ts depth (walkUnary ts) (unaries l) := by
  intro place within
  rw [Expr.unaries]
  refine .call (fun calls => by rw [walkUnary]) ?_
  rcases ended.take?_cases UnaryOp.ofToken? rfl within depth with
    ⟨noOp, ends⟩ | ⟨op, _, taken, behind, ends⟩
  · rw [noOp]
    exact .behind ends (mirrors.postfixed ended place within)
  · rw [taken]
    exact .behind ends ((mirrors.operand _ behind).bind fun _ _ _ inside =>
      follows_pure inside rfl rfl)

theorem Ended.mirrors_binaryStep (ended : Ended ts) {row : List BinaryOp}
    {tighter : List (List BinaryOp)} {operand : Parser Expr}
    (mirrors : Mirrors ts depth (walkBinary ts tighter) operand) (left : Expr) :
    MirrorsStep ts depth (walkOperator ts row tighter left) (binaryStep row operand left) := by
  intro place within
  rw [binaryStep]
  refine .call (fun calls => by rw [walkOperator]) ?_
  rcases ended.take?_cases (operatorOf? row) rfl within depth with
    ⟨noOp, ends⟩ | ⟨op, _, taken, behind, ends⟩
  · rw [noOp]
    exact .behind ends follows_no_step
  · rw [taken]
    exact .behind ends ((mirrors _ behind).bind fun _ _ _ inside => follows_step inside rfl rfl)

theorem MirrorsLevel.binaries (mirrors : MirrorsLevel ts depth l) (ended : Ended ts)
    (rows : List (List BinaryOp)) : Mirrors ts depth (walkBinary ts rows) (binaries l rows) := by
  intro place within
  induction rows generalizing place with
  | nil => exact .call (fun calls => by rw [walkBinary]) (mirrors.unaries ended place within)
  | cons row tighter ih =>
      refine .call (fun calls => by rw [walkBinary]) ?_
      exact Mirrors.extending ih (walkOperators_eq ts row tighter) (ended.mirrors_binaryStep ih)
        place within

theorem MirrorsLevel.conditionals (mirrors : MirrorsLevel ts depth l) (ended : Ended ts) :
    Mirrors ts depth (walkBranches ts) (conditionals l) := by
  intro place within
  rw [Expr.conditionals]
  refine .call (fun calls => by rw [walkBranches]) ?_
  refine (mirrors.binaries ended BinaryOp.rows place within).bind fun test further _ inside => ?_
  dsimp only
  rcases ended.symbol?_cases .question inside depth with ⟨noMark, ends⟩ | ⟨_, mark, behind, ends⟩
  · rw [noMark]
    exact .behind ends (follows_pure inside rfl rfl)
  · rw [mark]
    refine .behind ends ((mirrors.nested _ behind).bind fun _ _ _ inside => ?_)
    refine (ended.mirrors_expect .colon _ inside).bind fun _ _ _ inside => ?_
    exact (mirrors.nested _ inside).bind fun _ _ _ inside => follows_pure inside rfl rfl

theorem Ended.mirrorsLevel (ended : Ended ts) (depth : Nat) :
    MirrorsLevel ts depth (level (levelLimit - depth)) := by
  induction left : levelLimit - depth generalizing depth with
  | zero =>
      have above : levelLimit ≤ depth := by omega
      exact ⟨mirrors_tooDeep above, mirrors_tooDeep above, mirrors_tooDeep above,
        mirrors_tooDeep above⟩
  | succ levels ih =>
      have below : depth < levelLimit := by omega
      have deeper := ih (depth + 1) (by omega)
      exact ⟨(deeper.conditionals ended).inLevel below, (deeper.unaries ended).inLevel below,
        (deeper.construction ended).inLevel below,
        (ended.mirrors_listUntil deeper.nested .rightBracket).inLevel below⟩

end Stencil.Expr
