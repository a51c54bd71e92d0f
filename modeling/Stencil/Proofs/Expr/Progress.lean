import Stencil.Proofs.Expr.Mirror

/-!
# Walks make progress

Along tokens of which only the last one is an end, every walk of the grammar comes to an end from
every place and with any number of open levels.  A walk that gives a result has moved the cursor, a
list behind its closing symbol; no walk leaves the tokens or closes a level that is not open, and
behind a result as many levels are open as before.  Hence walking along the tokens of a text always
ends, with what parsing the text gives.
-/

namespace Stencil.Expr

variable {α : Type} {ts : List Lexeme} {start reached : Cursor}

/-- How a walk may end: with a fault, or with a result behind at least one token and as many open
levels as at its start.  Either way the cursor is at one of the tokens. -/
inductive Progressed (ts : List Lexeme) (start : Cursor) : Except Halt α → Cursor → Prop where
  | fault {fault : Located Fault} {reached : Cursor} :
      reached.place < ts.length → Progressed ts start (.error (.fault fault)) reached
  | result {a : α} {reached : Cursor} :
      start.place < reached.place → reached.place < ts.length → reached.depth = start.depth →
      Progressed ts start (.ok a) reached

/-- A walk comes to an end from every place, and never by going nowhere. -/
def Progresses (ts : List Lexeme) (walk : Nat → Walk α) : Prop :=
  ∀ start : Cursor, start.place < ts.length →
    ∃ ending reached, Finishes walk start ending reached ∧ Progressed ts start ending reached

/-- What makes progress from a later place makes progress. -/
theorem Progressed.mono {ending : Except Halt α} {place further depth : Nat}
    (progressed : Progressed ts ⟨further, depth⟩ ending reached) (le : place ≤ further) :
    Progressed ts ⟨place, depth⟩ ending reached := by
  cases progressed with
  | fault within => exact .fault within
  | result behind within depth_eq => exact .result (Nat.lt_of_le_of_lt le behind) within depth_eq

/-- Parsers leave fewer tokens than they are given, so what mirrors them makes progress. -/
theorem progresses_of_mirrors {walk : Nat → Walk α} {parser : Nat → Parser α}
    (mirrors : ∀ depth, Mirrors ts depth walk (parser depth)) : Progresses ts walk := by
  rintro ⟨place, depth⟩ within
  have follows := mirrors depth place within
  cases read : parser depth (ts.drop place) with
  | error fault =>
      rw [read] at follows
      rcases follows with ⟨reached, finishes, inside⟩
      exact ⟨_, reached, finishes, .fault inside⟩
  | ok parsed =>
      rw [read] at follows
      rcases follows with ⟨a, reached, finishes, _, rest_eq, inside, depth_eq⟩
      have shorter := parsed.rest_lt
      rw [rest_eq, List.length_drop, List.length_drop] at shorter
      have behind : place < reached.place := by omega
      exact ⟨_, reached, finishes, .result behind inside depth_eq⟩

/-- A name of a property is one token. -/
theorem Ended.property_progresses (ended : Ended ts) :
    Progresses ts fun _ => walkProperty ts := by
  rintro ⟨place, depth⟩ within
  rcases ended.property_cases within depth with ⟨_, ends⟩ | ⟨_, _, _, behind, ends⟩
  · exact ⟨_, _, finishes_of_outcome ends, .fault within⟩
  · exact ⟨_, _, finishes_of_outcome ends, .result (Nat.lt_succ_self _) behind rfl⟩

theorem exists_outcome_advance {place : Nat} (within : place < ts.length) (depth : Nat) :
    ∃ further, place ≤ further ∧ further < ts.length ∧
      (advance ts).outcome ⟨place, depth⟩ = some (.ok (), ⟨further, depth⟩) := by
  by_cases inside : place < ts.length - 1
  · exact ⟨place + 1, by omega, by omega, outcome_advance (by omega)⟩
  · exact ⟨place, Nat.le_refl _, within, by rw [advance, outcome_modify, if_neg inside]⟩

/-- The walk of a construction does not look at its first token, which may even be the last one:
then the target makes the progress, or rather does not begin. -/
theorem Ended.new_progresses (ended : Ended ts) : Progresses ts (walkNew ts) := by
  rintro ⟨place, depth⟩ within
  rcases exists_outcome_advance within depth with ⟨further, le, inside, ends⟩
  have target := progresses_of_mirrors fun depth => (ended.mirrorsLevel depth).target
  rcases target ⟨further, depth⟩ inside with ⟨ending, reached, finishes, progressed⟩
  refine ⟨ending, reached, .call (fun calls => by rw [walkNew]) ?_, progressed.mono le⟩
  exact (finishes_of_outcome ends).bind finishes

/-! ## Walks of the grammar -/

/-- A walk makes progress, and does what a parser with the levels does that are left. -/
structure Traces (ts : List Lexeme) (walk : Nat → Walk α) (parser : Level → Parser α) : Prop where
  progresses : Progresses ts walk
  mirrors : ∀ depth, Mirrors ts depth walk (parser (level (levelLimit - depth)))

theorem Ended.traces (ended : Ended ts) {walk : Nat → Walk α} {parser : Level → Parser α}
    (mirrors : ∀ {depth l}, MirrorsLevel ts depth l → Mirrors ts depth walk (parser l)) :
    Traces ts walk parser :=
  have leveled (depth : Nat) := mirrors (ended.mirrorsLevel depth)
  ⟨progresses_of_mirrors leveled, leveled⟩

/-- Every walk of the grammar makes progress.  What a subexpression or a list has taken spells its
result; a list has taken its closing symbol as well.  A whole text looks at what is left behind its
expression, and is one only if nothing but the end is left. -/
structure GrammarProgresses (ts : List Lexeme) : Prop where
  conditional : Traces ts (walkConditional ts) (·.nested)
  binary : ∀ rows, Traces ts (walkBinary ts rows) (binaries · rows)
  unary : Traces ts (walkUnary ts) unaries
  postfixed : Traces ts (walkPostfix ts) postfixed
  new : Progresses ts (walkNew ts)
  list : ∀ close, Traces ts (walkList ts close) (listUntil close ·.nested)
  property : Progresses ts fun _ => walkProperty ts
  primary : Traces ts (walkPrimary ts) primary
  closes : ∀ close start items reached, start.place < ts.length →
    Finishes (walkList ts close) start (.ok items) reached →
      ∃ taken closing height, ts.drop start.place = taken ++ closing :: ts.drop reached.place ∧
        closing.item = .symbol close ∧ Derives .items height (tokensOf taken) (.array items)
  stops : ∀ start e reached, start.place < ts.length →
    Finishes (walkConditional ts) start (.ok e) reached →
      ∃ taken t rest height, ts.drop start.place = taken ++ t :: rest ∧
        t :: rest = ts.drop reached.place ∧ Derives .conditional height (tokensOf taken) e ∧
        Finishes (walkExpr ts) start
          (if rest = [] then .ok e else .error (.fault ⟨t.offset, .unexpected t.item⟩)) reached

/-- What a walk gives is what the parser reads that it mirrors. -/
theorem Mirrors.run_eq {walk : Nat → Walk α} {parser : Parser α} {a : α}
    (mirrors : Mirrors ts start.depth walk parser) (within : start.place < ts.length)
    (finishes : Finishes walk start (.ok a) reached) :
    run parser (ts.drop start.place) = .ok (a, ts.drop reached.place) := by
  have follows := mirrors start.place within
  rw [run]
  cases read : parser (ts.drop start.place) with
  | error fault =>
      rw [read] at follows
      rcases follows with ⟨_, halts, _⟩
      cases (finishes.unique halts).1
  | ok parsed =>
      rw [read] at follows
      rcases follows with ⟨_, _, arrives, result_eq, rest_eq, _⟩
      rcases finishes.unique arrives with ⟨same, rfl⟩
      cases same
      rw [outcome, result_eq, rest_eq]

theorem Progresses.lt_length {walk : Nat → Walk α} {ending : Except Halt α}
    (progresses : Progresses ts walk) (within : start.place < ts.length)
    (finishes : Finishes walk start ending reached) : reached.place < ts.length := by
  rcases progresses start within with ⟨_, _, arrives, progressed⟩
  rcases finishes.unique arrives with ⟨rfl, rfl⟩
  cases progressed with
  | fault within => exact within
  | result _ within _ => exact within

/-- Behind an expression a whole text looks at the next token. -/
theorem finishes_walkExpr {e : Expr}
    (finishes : Finishes (walkConditional ts) start (.ok e) reached)
    (within : reached.place < ts.length) :
    Finishes (walkExpr ts) start
      (if ts[reached.place].item = .stop then .ok e
        else .error (.fault ⟨ts[reached.place].offset, .unexpected ts[reached.place].item⟩))
      reached := by
  refine finishes.bind (finishes_of_outcome ?_)
  rw [outcome_bind_of_ok (outcome_nextToken within)]
  by_cases atEnd : ts[reached.place].item = .stop
  · rw [if_pos atEnd, if_pos atEnd]
    rfl
  · rw [if_neg atEnd, if_neg atEnd]
    exact outcome_halt within _

theorem Ended.grammarProgresses (ended : Ended ts) : GrammarProgresses ts where
  conditional := ended.traces (·.nested)
  binary rows := ended.traces (·.binaries ended rows)
  unary := ended.traces (·.unaries ended)
  postfixed := ended.traces (·.postfixed ended)
  new := ended.new_progresses
  list close := ended.traces fun mirrors => ended.mirrors_listUntil mirrors.nested close
  property := ended.property_progresses
  primary := ended.traces (·.primary ended)
  closes close start items reached within finishes := by
    have mirrors := ended.mirrors_listUntil (ended.mirrorsLevel start.depth).nested close
    rcases (sound_level _).reads_of_run_listUntil (mirrors.run_eq within finishes) with
      ⟨closing, isClosing, taken, height, _, split, rfl, derivation⟩
    exact ⟨taken, closing, height, split, isClosing, derivation⟩
  stops start e reached within finishes := by
    have conditional := ended.traces (·.nested)
    have inside := conditional.progresses.lt_length within finishes
    have read := (conditional.mirrors start.depth).run_eq within finishes
    rcases (sound_level _).nested read with ⟨taken, height, _, split, rfl, derivation⟩
    have rest_eq := List.drop_eq_getElem_cons inside
    refine ⟨taken, _, _, height, rest_eq ▸ split, rest_eq.symm, derivation, ?_⟩
    have atEnd_iff : ts[reached.place].item = .stop ↔ ts.drop (reached.place + 1) = [] := by
      rw [ended.item_eq_stop_iff inside, List.drop_eq_nil_iff]
      omega
    have checked := finishes_walkExpr finishes inside
    simp only [atEnd_iff] at checked
    exact checked

/-! ## Whole texts -/

theorem ended_of_scan {source : String} (scanned : scan source = .ok ts) : Ended ts :=
  exists_of_scanFrom scanned

/-- Walking along all tokens comes to an end, and gives what parsing them gives. -/
theorem Ended.exists_finishes_walkExpr (ended : Ended ts) :
    ∃ reached, Finishes (walkExpr ts) ⟨0, 0⟩ ((ofLexemes ts).mapError .fault) reached := by
  have nonempty : 0 < ts.length := by
    rcases ended with ⟨body, last, rfl, _⟩
    simp
  have follows := (ended.mirrorsLevel 0).nested 0 nonempty
  rw [List.drop_zero, Nat.sub_zero] at follows
  rw [ofLexemes]
  cases read : (level levelLimit).nested ts with
  | error fault =>
      rw [read] at follows
      rcases follows with ⟨reached, halts, _⟩
      exact ⟨reached, halts.bind_error⟩
  | ok parsed =>
      rw [read] at follows
      rcases follows with ⟨e, reached, finishes, result_eq, rest_eq, inside, _⟩
      refine ⟨reached, ?_⟩
      have checked := finishes_walkExpr finishes inside
      rw [ok_bind, rest_eq, current_drop inside, faultAt, current_drop inside, result_eq]
      split
      · rename_i atEnd
        rw [if_pos atEnd] at checked
        exact checked
      · rename_i notEnd
        rw [if_neg notEnd] at checked
        exact checked

/-- Walking along the tokens of a text comes to an end, and gives what parsing the text gives. -/
theorem exists_walkParse_eq (source : String) :
    ∃ enough, ∀ calls, enough ≤ calls →
      walkParse source calls = some ((parse source).mapError .fault) := by
  cases scanned : scan source with
  | error fault =>
      refine ⟨0, fun calls _ => ?_⟩
      rw [walkParse, parse, scanned]
      rfl
  | ok ts =>
      rcases (ended_of_scan scanned).exists_finishes_walkExpr with ⟨reached, enough, ends⟩
      refine ⟨enough, fun calls le => ?_⟩
      rw [walkParse, parse, scanned, ok_bind]
      dsimp only
      rw [ends calls le]
      rfl

/-- Along the tokens of any text, and along any other tokens of which only the last one is an end,
every walk of the grammar comes to an end from every place, makes progress if it gives a result, and
leaves the tokens and the open levels as it should; so walking along a whole text ends, with what
parsing the text gives. -/
theorem parsing_progresses :
    (∀ ts, Ended ts → GrammarProgresses ts) ∧
      (∀ source ts, scan source = .ok ts → Ended ts) ∧
      ∀ source, ∃ enough, ∀ calls, enough ≤ calls →
        walkParse source calls = some ((parse source).mapError .fault) :=
  ⟨fun _ => Ended.grammarProgresses, fun _ _ => ended_of_scan, exists_walkParse_eq⟩

/-- A call that breaks off in a list among its arguments. -/
theorem parsing_progresses_truncated :
    ∃ ts, scan "f([x" = .ok ts ∧ Ended ts ∧ GrammarProgresses ts ∧
      ∃ enough, ∀ calls, enough ≤ calls →
        walkParse "f([x" calls = some (.error (.fault ⟨4, .expected .rightBracket .stop⟩)) := by
  have scanned : scan "f([x" = .ok [⟨0, .name "f"⟩, ⟨1, .symbol .leftParen⟩,
      ⟨2, .symbol .leftBracket⟩, ⟨3, .name "x"⟩, ⟨4, .stop⟩] := by
    cbv
  have parsed : parse "f([x" = .error ⟨4, .expected .rightBracket .stop⟩ := by
    cbv
  have ended := parsing_progresses.2.1 _ _ scanned
  rcases parsing_progresses.2.2 "f([x" with ⟨enough, ends⟩
  refine ⟨_, scanned, ended, parsing_progresses.1 _ ended, enough, fun calls le => ?_⟩
  rw [ends calls le, parsed]
  rfl

end Stencil.Expr
