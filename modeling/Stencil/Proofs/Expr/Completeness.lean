import Stencil.Proofs.Expr.Tokens

/-!
# Parsers read what the grammar derives

With enough levels, a parser reads every phrase that it is for, whatever follows, as long as what
follows does not hold on to the phrase.  With too few it gives up for that reason and no other.
-/

namespace Stencil.Expr

/-! ## Results that need levels -/

/-- A result that needs `height` levels where there are `levels`. -/
def limited {α : Type} (levels height : Nat) (a : α) : Except Fault α :=
  if height ≤ levels then .ok a else .error .tooDeep

section

variable {α β γ : Type} {levels height other : Nat} {a : α} {b : β}

@[simp]
theorem limited_zero : limited levels 0 a = .ok a :=
  if_pos (Nat.zero_le levels)

@[simp]
theorem limited_succ : limited (levels + 1) (height + 1) a = limited levels height a := by
  simp only [limited, Nat.add_le_add_iff_right]

theorem limited_bind_ok {next : α → Except Fault β} (next_eq : next a = .ok b) :
    (limited levels height a >>= next) = limited levels height b := by
  simp only [limited]
  split
  · exact next_eq
  · rfl

theorem limited_bind_congr {next : α → Except Fault γ} {last : β → Except Fault γ}
    (next_eq : next a = last b) :
    (limited levels height a >>= next) = limited levels height b >>= last := by
  simp only [limited]
  split
  · exact next_eq
  · rfl

/-- One part after the other needs as many levels as the higher of the two. -/
theorem limited_bind_limited {next : α → Except Fault γ} {last : β → Except Fault γ}
    (next_eq : next a = limited levels other b >>= last) :
    (limited levels height a >>= next) = limited levels (max height other) b >>= last := by
  by_cases fits : height ≤ levels
  · rw [limited, if_pos fits, ok_bind, next_eq]
    simp only [limited, Nat.max_le, fits, true_and]
  · have tooHigh : ¬ max height other ≤ levels := fun le => fits (Nat.max_le.mp le).1
    rw [limited, limited, if_neg fits, if_neg tooHigh]
    rfl

theorem limited_bind {next : α → Except Fault β} (next_eq : next a = limited levels other b) :
    (limited levels height a >>= next) = limited levels (max height other) b := by
  have same : (limited levels other b >>= fun b => Except.ok b) = limited levels other b :=
    limited_bind_ok rfl
  rw [limited_bind_limited (next_eq.trans same.symm)]
  exact limited_bind_ok rfl

end

/-! ## Repeated steps -/

section

variable {α : Type} {step : Step α} {a b : α} {ts rest : List Lexeme} {levels height : Nat}

/-- A step that does not apply ends the repetition. -/
theorem limited_bind_runExtend (stops : runStep step a rest = .ok none) :
    (limited levels height (a, rest) >>= fun taken => runExtend step taken.1 taken.2) =
      limited levels height (a, rest) := by
  apply limited_bind_ok
  rw [runExtend_eq, stops, ok_bind]

theorem runExtend_of_limited
    (applies : runStep step a ts = limited levels height (some (b, rest))) :
    runExtend step a ts =
      limited levels height (b, rest) >>= fun taken => runExtend step taken.1 taken.2 := by
  rw [runExtend_eq, applies]
  exact limited_bind_congr rfl

end

/-! ## Phrases -/

/-- What completeness says about a phrase.  A chain or an operation whose last part has been read
goes on with its steps. -/
def Complete : Phrase → Nat → List Token → Expr → Prop
  | .primary, height, tokens, e => ∀ levels pre rest, tokensOf pre = tokens →
      run (primary (level levels)) (pre ++ rest) = limited levels height (e, rest)
  | .chain calls, height, tokens, e => ∀ levels pre rest, tokensOf pre = tokens →
      run (extending (base (level levels)) (chainStep (level levels) calls)) (pre ++ rest) =
        limited levels height (e, rest) >>= fun taken =>
          runExtend (chainStep (level levels) calls) taken.1 taken.2
  | .construction, height, tokens, e => ∀ levels pre rest, tokensOf pre = tokens →
      Ends 8 rest →
      run (base (level levels)) (pre ++ rest) = limited levels height (e, rest)
  | .operand, height, tokens, e => ∀ levels pre rest, tokensOf pre = tokens →
      Ends 8 rest →
      run (postfixed (level levels)) (pre ++ rest) = limited levels height (e, rest)
  -- Before an operator of its own tightness an operation is not over: the operator takes it as its
  -- left operand.  The second half says how its steps go on.
  | .operation tightness, height, tokens, e => ∀ levels pre rest, tokensOf pre = tokens →
      (Ends (tightness + 2) rest →
        run (operations (level levels) tightness) (pre ++ rest) =
          limited levels height (e, rest)) ∧
      (tightness < 6 → Ends (tightness + 3) rest →
        run (operations (level levels) tightness) (pre ++ rest) =
          limited levels height (e, rest) >>= fun taken =>
            runExtend (operationStep (level levels) tightness) taken.1 taken.2)
  | .conditional, height, tokens, e => ∀ levels pre rest, tokensOf pre = tokens →
      Ends 1 rest →
      run (level levels).nested (pre ++ rest) = limited levels height (e, rest)
  | .items, height, tokens, e => ∀ levels close pre closing rest items, tokensOf pre = tokens →
      e = .array items → front (.symbol close) = 0 → closing.item = .symbol close →
      run (listUntil close (level levels).nested) (pre ++ closing :: rest) =
        limited levels height (items, rest)

section

variable {height other : Nat} {tokens others inner : List Token} {token : Token}
  {e target key : Expr} {args : List Expr} {calls : Bool} {l : Level} {levels : Nat}

/-- Lexemes between brackets. -/
theorem exists_of_tokensOf_brackets {pre : List Lexeme} {opening closing : Token}
    (spelled : tokensOf pre = opening :: inner ++ [closing]) :
    ∃ first inside last, pre = first :: inside ++ [last] ∧
      first.item = opening ∧ tokensOf inside = inner ∧ last.item = closing := by
  rcases List.map_eq_append_iff.mp spelled with ⟨front, back, rfl, spelledFront, spelledBack⟩
  rcases List.map_eq_cons_iff.mp spelledFront with ⟨first, inside, rfl, isFirst, spelledInside⟩
  rcases List.map_eq_singleton_iff.mp spelledBack with ⟨last, rfl, isLast⟩
  exact ⟨first, inside, last, rfl, isFirst, spelledInside, isLast⟩

/-- Lexemes between brackets behind others. -/
theorem exists_of_tokensOf_append_brackets {pre : List Lexeme} {opening closing : Token}
    (spelled : tokensOf pre = tokens ++ opening :: inner ++ [closing]) :
    ∃ front first inside last, pre = front ++ first :: inside ++ [last] ∧
      tokensOf front = tokens ∧ first.item = opening ∧ tokensOf inside = inner ∧
      last.item = closing := by
  rw [List.append_assoc] at spelled
  rcases List.map_eq_append_iff.mp spelled with ⟨front, back, rfl, spelledFront, spelledBack⟩
  rcases exists_of_tokensOf_brackets spelledBack with
    ⟨first, inside, last, rfl, isFirst, spelledInside, isLast⟩
  refine ⟨front, first, inside, last, ?_, spelledFront, isFirst, spelledInside, isLast⟩
  rw [List.append_assoc]

/-! ### Primaries -/

theorem run_expect_self {symbol : Symbol} {t : Lexeme} {rest : List Lexeme}
    (isSymbol : t.item = .symbol symbol) : run (expect symbol) (t :: rest) = .ok ((), rest) := by
  rw [run_expect, afterSymbol?_cons_self isSymbol]

theorem IsAtom.ne_symbol (atom : IsAtom token e) (symbol : Symbol) : token ≠ .symbol symbol := by
  rintro rfl
  cases atom

theorem complete_atom (atom : IsAtom token e) : Complete .primary 0 [token] e := by
  intro levels pre rest spelled
  rcases List.map_eq_singleton_iff.mp spelled with ⟨t, rfl, rfl⟩
  have noParen : afterSymbol? .leftParen (t :: rest) = none :=
    afterSymbol?_cons_of_ne (atom.ne_symbol .leftParen)
  have noBracket : afterSymbol? .leftBracket (t :: rest) = none :=
    afterSymbol?_cons_of_ne (atom.ne_symbol .leftBracket)
  have read : after? atom? (t :: rest) = some (e, rest) :=
    after?_eq_some_iff.mpr ⟨t, rfl, atom?_eq_some_iff.mpr atom⟩
  simp only [List.cons_append, List.nil_append, run_primary, noParen, noBracket, read,
    limited_zero]

theorem complete_parentheses (innerComplete : Complete .conditional height inner e) :
    Complete .primary height (.symbol .leftParen :: inner ++ [.symbol .rightParen]) e := by
  intro levels pre rest spelled
  rcases exists_of_tokensOf_brackets spelled with
    ⟨opening, inside, closing, rfl, isOpening, spelledInside, isClosing⟩
  have ends : Ends 1 (closing :: rest) := ends_cons (by rw [isClosing]; decide)
  simp only [List.cons_append, List.append_assoc, List.nil_append, run_primary,
    afterSymbol?_cons_self isOpening, innerComplete levels inside _ spelledInside ends]
  apply limited_bind_ok
  simp only [run_expect_self isClosing, ok_bind]

theorem complete_array (innerComplete : Complete .items height inner (.array args)) :
    Complete .primary (height + 1)
      (.symbol .leftBracket :: inner ++ [.symbol .rightBracket]) (.array args) := by
  intro levels pre rest spelled
  rcases exists_of_tokensOf_brackets spelled with
    ⟨opening, inside, closing, rfl, isOpening, spelledInside, isClosing⟩
  have noParen : afterSymbol? .leftParen (opening :: (inside ++ closing :: rest)) = none :=
    afterSymbol?_cons_of_ne (by rw [isOpening]; decide)
  simp only [List.cons_append, List.append_assoc, List.nil_append, run_primary, noParen,
    afterSymbol?_cons_self isOpening]
  cases levels with
  | zero => rfl
  | succ fewer =>
      have read : run (level (fewer + 1)).items (inside ++ closing :: rest) =
          limited fewer height (args, rest) :=
        innerComplete fewer .rightBracket inside closing rest args spelledInside rfl rfl isClosing
      rw [read, limited_succ]
      exact limited_bind_ok rfl

/-! ### Chains -/

/-- A test that accepts nothing that a phrase begins with refuses the phrase. -/
theorem Derives.after?_eq_none {α : Type} {accepts : Token → Option α} {phrase : Phrase}
    {pre rest : List Lexeme} (derivation : Derives phrase height tokens e)
    (notItems : phrase ≠ .items) (spelled : tokensOf pre = tokens)
    (refuses : ∀ token, phrase.front ≤ front token → accepts token = none) :
    after? accepts (pre ++ rest) = none := by
  rcases derivation.exists_front with isItems | ⟨first, others, rfl, le⟩
  · exact absurd isItems notItems
  · rcases List.map_eq_cons_iff.mp spelled with ⟨t, more, rfl, rfl, _⟩
    apply after?_eq_none_iff.mpr
    intro taken mem
    cases mem
    exact refuses t.item le

theorem complete_primary (derivation : Derives .primary height tokens e)
    (primaryComplete : Complete .primary height tokens e) :
    Complete (.chain calls) height tokens e := by
  intro levels pre rest spelled
  have notNew : after? isNew? (pre ++ rest) = none := by
    apply derivation.after?_eq_none (by simp) spelled
    intro token le
    apply if_neg
    rintro rfl
    exact absurd le (by decide)
  simp only [run_extending, run_base, notNew, primaryComplete levels pre rest spelled]

/-- What follows `new` is one level deeper. -/
theorem run_base_of_new {mark : Lexeme} {ts : List Lexeme} {read : Expr × List Lexeme}
    (isNew : mark.item = .keyword .new)
    (constructs : ∀ fewer, run (construction (level fewer)) ts = limited fewer height read)
    (levels : Nat) :
    run (base (level levels)) (mark :: ts) = limited levels (height + 1) read := by
  have found : after? isNew? (mark :: ts) = some ((), ts) :=
    after?_eq_some_iff.mpr ⟨mark, rfl, isNew?_eq_some_iff.mpr isNew⟩
  simp only [run_base, found]
  cases levels with
  | zero => rfl
  | succ fewer =>
      rw [limited_succ]
      exact constructs fewer

theorem complete_newWith (targetComplete : Complete (.chain false) height tokens target)
    (argsComplete : Complete .items other inner (.array args)) :
    Complete (.chain calls) (max height other + 1)
      (.keyword .new :: tokens ++ .symbol .leftParen :: inner ++ [.symbol .rightParen])
      (.new target args) := by
  intro levels pre rest spelled
  rcases exists_of_tokensOf_append_brackets spelled with
    ⟨callee, opening, inside, closing, rfl, spelledCallee, isOpening, spelledInside, isClosing⟩
  rcases List.map_eq_cons_iff.mp spelledCallee with ⟨mark, object, rfl, isMark, spelledObject⟩
  have constructs (fewer : Nat) :
      run (construction (level fewer)) (object ++ opening :: (inside ++ closing :: rest)) =
        limited fewer (max height other) (.new target args, rest) := by
    have noDot : afterSymbol? .dot (opening :: (inside ++ closing :: rest)) = none :=
      afterSymbol?_cons_of_ne (by rw [isOpening]; decide)
    have noBracket : afterSymbol? .leftBracket (opening :: (inside ++ closing :: rest)) = none :=
      afterSymbol?_cons_of_ne (by rw [isOpening]; decide)
    have stops : runStep (accessStep (level fewer)) target
        (opening :: (inside ++ closing :: rest)) = .ok none := by
      simp only [runStep_accessStep, noDot, noBracket]
    have readTarget := targetComplete fewer object (opening :: (inside ++ closing :: rest))
      spelledObject
    have readArgs := argsComplete fewer .rightParen inside closing rest args spelledInside rfl rfl
      isClosing
    rw [chainStep, limited_bind_runExtend stops] at readTarget
    rw [run_construction, readTarget]
    apply limited_bind
    simp only [afterSymbol?_cons_self isOpening, readArgs]
    exact limited_bind_ok rfl
  simp only [List.cons_append, List.append_assoc, List.nil_append, run_extending,
    run_base_of_new isMark constructs]

/-- A step after a chain that needs no levels of its own. -/
theorem complete_member {property : String}
    (objectComplete : Complete (.chain calls) height tokens e)
    (isProperty : IsProperty token property) :
    Complete (.chain calls) height (tokens ++ [.symbol .dot, token]) (.member e property) := by
  intro levels pre rest spelled
  rcases List.map_eq_append_iff.mp spelled with ⟨object, back, rfl, spelledObject, spelledBack⟩
  rcases List.map_eq_cons_iff.mp spelledBack with ⟨dot, last, rfl, isDot, spelledLast⟩
  rcases List.map_eq_singleton_iff.mp spelledLast with ⟨name, rfl, rfl⟩
  have noCall : afterSymbol? .leftParen (dot :: name :: rest) = none :=
    afterSymbol?_cons_of_ne (by rw [isDot]; decide)
  have read : after? propertyName? (name :: rest) = some (property, rest) :=
    after?_eq_some_iff.mpr ⟨name, rfl, propertyName?_eq_some_iff.mpr isProperty⟩
  simp only [List.append_assoc, List.cons_append, List.nil_append,
    objectComplete levels object (dot :: name :: rest) spelledObject]
  apply limited_bind_congr
  simp only [runExtend_eq _ e, runStep_chainStep noCall, runStep_accessStep,
    afterSymbol?_cons_self isDot, read, ok_bind]

theorem complete_index (objectComplete : Complete (.chain calls) height tokens e)
    (keyComplete : Complete .conditional other inner key) :
    Complete (.chain calls) (max height other)
      (tokens ++ .symbol .leftBracket :: inner ++ [.symbol .rightBracket]) (.index e key) := by
  intro levels pre rest spelled
  rcases exists_of_tokensOf_append_brackets spelled with
    ⟨object, opening, inside, closing, rfl, spelledObject, isOpening, spelledInside, isClosing⟩
  have ends : Ends 1 (closing :: rest) := ends_cons (by rw [isClosing]; decide)
  have noCall : afterSymbol? .leftParen (opening :: (inside ++ closing :: rest)) = none :=
    afterSymbol?_cons_of_ne (by rw [isOpening]; decide)
  have noDot : afterSymbol? .dot (opening :: (inside ++ closing :: rest)) = none :=
    afterSymbol?_cons_of_ne (by rw [isOpening]; decide)
  simp only [List.append_assoc, List.cons_append, List.nil_append,
    objectComplete levels object (opening :: (inside ++ closing :: rest)) spelledObject]
  apply limited_bind_limited
  apply runExtend_of_limited
  simp only [runStep_chainStep noCall, runStep_accessStep, noDot, afterSymbol?_cons_self isOpening,
    keyComplete levels inside (closing :: rest) spelledInside ends]
  apply limited_bind_ok
  simp only [run_expect_self isClosing, ok_bind]

theorem complete_call (calleeComplete : Complete (.chain true) height tokens e)
    (argsComplete : Complete .items other inner (.array args)) :
    Complete (.chain true) (max height other)
      (tokens ++ .symbol .leftParen :: inner ++ [.symbol .rightParen]) (.call e args) := by
  intro levels pre rest spelled
  rcases exists_of_tokensOf_append_brackets spelled with
    ⟨callee, opening, inside, closing, rfl, spelledCallee, isOpening, spelledInside, isClosing⟩
  simp only [List.append_assoc, List.cons_append, List.nil_append,
    calleeComplete levels callee (opening :: (inside ++ closing :: rest)) spelledCallee]
  apply limited_bind_limited
  apply runExtend_of_limited
  simp only [chainStep, runStep_postfixStep, afterSymbol?_cons_self isOpening,
    argsComplete levels .rightParen inside closing rest args spelledInside rfl rfl isClosing]
  exact limited_bind_ok rfl

/-! ### Constructions without arguments -/

theorem run_construction_of_ends {ts rest : List Lexeme}
    (readTarget : run (extending (base l) (accessStep l)) ts =
      limited levels height (target, rest))
    (ends : Ends 8 rest) :
    run (construction l) ts = limited levels height (.new target [], rest) := by
  rw [run_construction, readTarget]
  apply limited_bind_ok
  simp only [ends.afterSymbol?_eq_none .leftParen (Nat.le_refl 8)]

theorem complete_newChain (targetComplete : Complete (.chain false) height tokens target) :
    Complete .construction (height + 1) (.keyword .new :: tokens) (.new target []) := by
  intro levels pre rest spelled ends
  rcases List.map_eq_cons_iff.mp spelled with ⟨mark, object, rfl, isMark, spelledObject⟩
  rw [List.cons_append]
  apply run_base_of_new isMark
  intro fewer
  have readTarget := targetComplete fewer object rest spelledObject
  rw [limited_bind_runExtend (runStep_chainStep_of_ends _ _ _ ends)] at readTarget
  exact run_construction_of_ends readTarget ends

theorem complete_newConstruction (targetComplete : Complete .construction height tokens target) :
    Complete .construction (height + 1) (.keyword .new :: tokens) (.new target []) := by
  intro levels pre rest spelled ends
  rcases List.map_eq_cons_iff.mp spelled with ⟨mark, object, rfl, isMark, spelledObject⟩
  rw [List.cons_append]
  apply run_base_of_new isMark
  intro fewer
  apply run_construction_of_ends _ ends
  rw [run_extending, targetComplete fewer object rest spelledObject ends]
  exact limited_bind_runExtend (runStep_chainStep_of_ends _ false _ ends)

/-! ### Operands -/

theorem complete_chain (chainComplete : Complete (.chain true) height tokens e) :
    Complete .operand height tokens e := by
  intro levels pre rest spelled ends
  have read := chainComplete levels pre rest spelled
  rw [limited_bind_runExtend (runStep_chainStep_of_ends _ _ _ ends)] at read
  exact read

theorem complete_construction (constructionComplete : Complete .construction height tokens e) :
    Complete .operand height tokens e := by
  intro levels pre rest spelled ends
  rw [postfixed, run_extending, constructionComplete levels pre rest spelled ends]
  exact limited_bind_runExtend (runStep_chainStep_of_ends _ true _ ends)

/-! ### Operations -/

theorem complete_operand (derivation : Derives .operand height tokens e)
    (operandComplete : Complete .operand height tokens e) :
    Complete (.operation 6) height tokens e := by
  intro levels pre rest spelled
  refine ⟨fun ends => ?_, fun loose => absurd loose (Nat.lt_irrefl 6)⟩
  have notUnary : after? UnaryOp.ofToken? (pre ++ rest) = none := by
    apply derivation.after?_eq_none (by simp) spelled
    intro token le
    apply Option.eq_none_iff_forall_ne_some.mpr
    intro op read
    rw [UnaryOp.ofToken?_eq_some_iff.mp read, front_token] at le
    exact absurd le (by decide)
  change run (unaries (level levels)) (pre ++ rest) = _
  simp only [run_unaries, notUnary, operandComplete levels pre rest spelled ends]

theorem complete_unary (op : UnaryOp) (operandComplete : Complete (.operation 6) height tokens e) :
    Complete (.operation 6) (height + 1) (op.token :: tokens) (.unary op e) := by
  intro levels pre rest spelled
  refine ⟨fun ends => ?_, fun loose => absurd loose (Nat.lt_irrefl 6)⟩
  rcases List.map_eq_cons_iff.mp spelled with ⟨mark, operand, rfl, isMark, spelledOperand⟩
  have found : after? UnaryOp.ofToken? (mark :: (operand ++ rest)) = some (op, operand ++ rest) :=
    after?_eq_some_iff.mpr ⟨mark, rfl, UnaryOp.ofToken?_eq_some_iff.mpr isMark⟩
  change run (unaries (level levels)) (mark :: (operand ++ rest)) = _
  simp only [run_unaries, found]
  cases levels with
  | zero => rfl
  | succ fewer =>
      have read : run (level (fewer + 1)).operand (operand ++ rest) =
          limited fewer height (e, rest) :=
        (operandComplete fewer operand rest spelledOperand).1 ends
      rw [read, limited_succ]
      exact limited_bind_ok rfl

/-- An operation that goes on with operators of its own tightness is complete where none
follows. -/
theorem complete_operation {tightness : Nat}
    (goesOn : ∀ levels pre rest, tokensOf pre = tokens → Ends (tightness + 3) rest →
      run (operations (level levels) tightness) (pre ++ rest) =
        limited levels height (e, rest) >>= fun taken =>
          runExtend (operationStep (level levels) tightness) taken.1 taken.2) :
    Complete (.operation tightness) height tokens e := by
  intro levels pre rest spelled
  refine ⟨fun ends => ?_, fun _ ends => goesOn levels pre rest spelled ends⟩
  rw [goesOn levels pre rest spelled (ends.mono (Nat.le_succ _))]
  apply limited_bind_runExtend
  rw [operationStep, runStep_binaryStep]
  simp only [ends.operatorOf?_eq_none]

theorem complete_tighter {tightness : Nat} (loose : tightness < 6)
    (tighterComplete : Complete (.operation (tightness + 1)) height tokens e) :
    Complete (.operation tightness) height tokens e := by
  apply complete_operation
  intro levels pre rest spelled ends
  rw [operations_of_lt _ loose, run_extending, (tighterComplete levels pre rest spelled).1 ends]

theorem BinaryOp.tightness_lt (op : BinaryOp) : op.tightness < 6 := by
  cases op <;> decide

theorem complete_binary (op : BinaryOp) {right : Expr}
    (leftComplete : Complete (.operation op.tightness) height tokens e)
    (rightComplete : Complete (.operation (op.tightness + 1)) other others right) :
    Complete (.operation op.tightness) (max height other) (tokens ++ op.token :: others)
      (.binary op e right) := by
  have loose := BinaryOp.tightness_lt op
  apply complete_operation
  intro levels pre rest spelled ends
  rcases List.map_eq_append_iff.mp spelled with ⟨front, back, rfl, spelledFront, spelledBack⟩
  rcases List.map_eq_cons_iff.mp spelledBack with ⟨mark, operand, rfl, isMark, spelledOperand⟩
  have markEnds : Ends (op.tightness + 3) (mark :: (operand ++ rest)) :=
    ends_cons (by rw [isMark, grip_token]; omega)
  have found : after? (operatorOf? (BinaryOp.row op.tightness)) (mark :: (operand ++ rest)) =
      some (op, operand ++ rest) :=
    after?_eq_some_iff.mpr ⟨mark, rfl, operatorOf?_row_eq_some_iff.mpr ⟨isMark, rfl⟩⟩
  rw [List.append_assoc, List.cons_append,
    (leftComplete levels front _ spelledFront).2 loose markEnds]
  apply limited_bind_limited
  apply runExtend_of_limited
  rw [operationStep, runStep_binaryStep]
  simp only [found, (rightComplete levels operand rest spelledOperand).1 ends]
  exact limited_bind_ok rfl

/-! ### Conditionals and lists -/

theorem complete_test (testComplete : Complete (.operation 0) height tokens e) :
    Complete .conditional (height + 1) tokens e := by
  intro levels pre rest spelled ends
  cases levels with
  | zero => rfl
  | succ fewer =>
      change run (conditionals (level fewer)) (pre ++ rest) = _
      have read : run (binaries (level fewer) BinaryOp.rows) (pre ++ rest) =
          limited fewer height (e, rest) :=
        (testComplete fewer pre rest spelled).1 (ends.mono (Nat.le_succ 1))
      rw [run_conditionals, read, limited_succ]
      apply limited_bind_ok
      simp only [ends.afterSymbol?_eq_none .question (Nat.le_refl 1)]

theorem complete_conditional {thenHeight elseHeight : Nat} {yes no : List Token}
    {consequent alternate : Expr} (testComplete : Complete (.operation 0) height tokens e)
    (thenComplete : Complete .conditional thenHeight yes consequent)
    (elseComplete : Complete .conditional elseHeight no alternate) :
    Complete .conditional (max height (max thenHeight elseHeight) + 1)
      (tokens ++ .symbol .question :: yes ++ .symbol .colon :: no)
      (.conditional e consequent alternate) := by
  intro levels pre rest spelled ends
  rcases List.map_eq_append_iff.mp spelled with ⟨front, back, rfl, spelledFront, spelledBack⟩
  rcases List.map_eq_cons_iff.mp spelledBack with ⟨colon, last, rfl, isColon, spelledLast⟩
  rcases List.map_eq_append_iff.mp spelledFront with ⟨test, middle, rfl, spelledTest, spelledMiddle⟩
  rcases List.map_eq_cons_iff.mp spelledMiddle with ⟨mark, inside, rfl, isMark, spelledInside⟩
  cases levels with
  | zero => rfl
  | succ fewer =>
      have markEnds : Ends 2 (mark :: (inside ++ colon :: (last ++ rest))) :=
        ends_cons (by rw [isMark]; decide)
      have colonEnds : Ends 1 (colon :: (last ++ rest)) :=
        ends_cons (by rw [isColon]; decide)
      have read : run (binaries (level fewer) BinaryOp.rows)
          (test ++ mark :: (inside ++ colon :: (last ++ rest))) =
          limited fewer height (e, mark :: (inside ++ colon :: (last ++ rest))) :=
        (testComplete fewer test _ spelledTest).1 markEnds
      change run (conditionals (level fewer)) _ = _
      simp only [List.append_assoc, List.cons_append, run_conditionals, read, limited_succ]
      apply limited_bind
      simp only [afterSymbol?_cons_self isMark,
        thenComplete fewer inside _ spelledInside colonEnds]
      apply limited_bind
      simp only [run_expect_self isColon, ok_bind, elseComplete fewer last rest spelledLast ends]
      exact limited_bind_ok rfl

theorem complete_noItems : Complete .items 0 [] (.array []) := by
  intro levels close pre closing rest items spelled same _ isClosing
  cases List.map_eq_nil_iff.mp spelled
  cases same
  rw [List.nil_append, run_listUntil, limited_zero]
  simp only [afterSymbol?_cons_self isClosing]

/-- The symbol that closes a list begins no element. -/
theorem Derives.afterSymbol?_eq_none {close : Symbol} {pre rest : List Lexeme}
    (derivation : Derives .conditional height tokens e) (spelled : tokensOf pre = tokens)
    (isClose : front (.symbol close) = 0) : afterSymbol? close (pre ++ rest) = none := by
  rw [afterSymbol?]
  apply Option.map_eq_none_iff.mpr
  apply derivation.after?_eq_none (by simp) spelled
  intro token le
  apply if_neg
  rintro rfl
  rw [isClose] at le
  exact absurd le (by decide)

theorem grip_of_front_eq_zero {symbol : Symbol} (closes : front (.symbol symbol) = 0) :
    grip (.symbol symbol) = 0 := by
  cases symbol <;> first | rfl | cases closes

theorem complete_lastItem (derivation : Derives .conditional height tokens e)
    (itemComplete : Complete .conditional height tokens e) :
    Complete .items height tokens (.array [e]) := by
  intro levels close pre closing rest items spelled same isClose isClosing
  cases same
  have ends : Ends 1 (closing :: rest) := by
    apply ends_cons
    rw [isClosing, grip_of_front_eq_zero isClose]
    decide
  have noComma : afterSymbol? .comma (closing :: rest) = none := by
    apply afterSymbol?_cons_of_ne
    rw [isClosing]
    rintro ⟨⟩
    cases isClose
  rw [run_listUntil]
  simp only [derivation.afterSymbol?_eq_none spelled isClose,
    itemComplete levels pre (closing :: rest) spelled ends]
  apply limited_bind_ok
  simp only [noComma, run_expect_self isClosing, ok_bind]

theorem complete_moreItems {items : List Expr}
    (derivation : Derives .conditional height tokens e)
    (itemComplete : Complete .conditional height tokens e)
    (itemsComplete : Complete .items other others (.array items)) :
    Complete .items (max height other) (tokens ++ .symbol .comma :: others)
      (.array (e :: items)) := by
  intro levels close pre closing rest all spelled same isClose isClosing
  cases same
  rcases List.map_eq_append_iff.mp spelled with ⟨first, back, rfl, spelledFirst, spelledBack⟩
  rcases List.map_eq_cons_iff.mp spelledBack with ⟨comma, more, rfl, isComma, spelledMore⟩
  have ends : Ends 1 (comma :: (more ++ closing :: rest)) :=
    ends_cons (by rw [isComma]; decide)
  rw [run_listUntil]
  simp only [List.append_assoc, List.cons_append,
    derivation.afterSymbol?_eq_none spelledFirst isClose,
    itemComplete levels first _ spelledFirst ends]
  apply limited_bind
  simp only [afterSymbol?_cons_self isComma,
    itemsComplete levels close more closing rest items spelledMore rfl isClose isClosing]
  exact limited_bind_ok rfl

end

/-- Parsers read every phrase that the grammar derives, if there are levels enough. -/
theorem complete_of_derives {phrase : Phrase} {height : Nat} {tokens : List Token} {e : Expr}
    (derivation : Derives phrase height tokens e) : Complete phrase height tokens e := by
  induction derivation with
  | atom atom => exact complete_atom atom
  | parentheses _ ih => exact complete_parentheses ih
  | array _ ih => exact complete_array ih
  | primary derivation ih => exact complete_primary derivation ih
  | newWith _ _ targetIh argsIh => exact complete_newWith targetIh argsIh
  | member _ isProperty ih => exact complete_member ih isProperty
  | index _ _ objectIh keyIh => exact complete_index objectIh keyIh
  | call _ _ calleeIh argsIh => exact complete_call calleeIh argsIh
  | newChain _ ih => exact complete_newChain ih
  | newConstruction _ ih => exact complete_newConstruction ih
  | chain _ ih => exact complete_chain ih
  | construction _ ih => exact complete_construction ih
  | operand derivation ih => exact complete_operand derivation ih
  | unary op _ ih => exact complete_unary op ih
  | tighter loose _ ih => exact complete_tighter loose ih
  | binary op _ _ leftIh rightIh => exact complete_binary op leftIh rightIh
  | test _ ih => exact complete_test ih
  | conditional _ _ _ testIh thenIh elseIh => exact complete_conditional testIh thenIh elseIh
  | noItems => exact complete_noItems
  | lastItem derivation ih => exact complete_lastItem derivation ih
  | moreItems derivation _ itemIh itemsIh => exact complete_moreItems derivation itemIh itemsIh

end Stencil.Expr
