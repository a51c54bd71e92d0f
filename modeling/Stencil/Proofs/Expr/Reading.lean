import Stencil.Expr.Parser
import Stencil.Proofs.Sequence

/-!
# What parsers read

The bounds that parsers carry and the places of faults matter neither for what is read nor for what
is left.  Without them every parser satisfies a plain equation, and nothing else about parsers is
used later on.
-/

namespace Stencil.Expr

variable {α β : Type}

/-- What is read and what is left, or what is wrong. -/
def outcome {bound : Nat} : Except (Located Fault) (Parsed α bound) →
    Except Fault (α × List Lexeme)
  | .ok parsed => .ok (parsed.result, parsed.rest)
  | .error fault => .error fault.item

/-- What a parser reads. -/
def run (parser : Parser α) (ts : List Lexeme) : Except Fault (α × List Lexeme) :=
  outcome (parser ts)

/-- One step of a parser that extends a result. -/
abbrev Step (α : Type) :=
  α → (ts : List Lexeme) → Except (Located Fault) (Option (Parsed α ts.length))

/-- What a step reads, if it applies. -/
def runStep (step : Step α) (a : α) (ts : List Lexeme) :
    Except Fault (Option (α × List Lexeme)) :=
  match step a ts with
  | .ok none => .ok none
  | .ok (some parsed) => .ok (some (parsed.result, parsed.rest))
  | .error fault => .error fault.item

/-- What repeating a step reads. -/
def runExtend (step : Step α) (a : α) (ts : List Lexeme) : Except Fault (α × List Lexeme) :=
  outcome (extend step a ts)

/-- The first token and what follows it, if a test accepts the token. -/
def after? (accepts : Token → Option α) : List Lexeme → Option (α × List Lexeme)
  | [] => none
  | t :: rest => (accepts t.item).map fun a => (a, rest)

/-- What follows a symbol that comes first. -/
def afterSymbol? (symbol : Symbol) (ts : List Lexeme) : Option (List Lexeme) :=
  (after? (isSymbol? symbol) ts).map Prod.snd

/-! ## Combinators -/

section

variable {bound other : Nat}

/-- A sequence reads what its parts read. -/
theorem outcome_bind {first : Except (Located Fault) (Parsed α bound)}
    {next : Parsed α bound → Except (Located Fault) (Parsed β other)}
    {read : α × List Lexeme → Except Fault (β × List Lexeme)}
    (same : ∀ parsed, outcome (next parsed) = read (parsed.result, parsed.rest)) :
    outcome (first >>= next) = outcome first >>= read := by
  cases first with
  | error fault => rfl
  | ok parsed => exact same parsed

end

theorem after?_of_take?_eq_none {accepts : Token → Option α} {ts : List Lexeme}
    (taken : take? accepts ts = none) : after? accepts ts = none := by
  cases ts with
  | nil => rfl
  | cons t rest => simpa [take?, after?] using taken

theorem after?_of_take?_eq_some {accepts : Token → Option α} {ts : List Lexeme}
    {parsed : Parsed α ts.length} (taken : take? accepts ts = some parsed) :
    after? accepts ts = some (parsed.result, parsed.rest) := by
  cases ts with
  | nil => cases taken
  | cons t rest =>
      rcases Option.map_eq_some_iff.mp taken with ⟨a, accepted, rfl⟩
      simp only [after?, accepted, Option.map_some]

theorem afterSymbol?_of_takeSymbol?_eq_none {symbol : Symbol} {ts : List Lexeme}
    (taken : takeSymbol? symbol ts = none) : afterSymbol? symbol ts = none := by
  rw [afterSymbol?, after?_of_take?_eq_none taken]
  rfl

theorem afterSymbol?_of_takeSymbol?_eq_some {symbol : Symbol} {ts : List Lexeme}
    {parsed : Parsed Unit ts.length} (taken : takeSymbol? symbol ts = some parsed) :
    afterSymbol? symbol ts = some parsed.rest := by
  rw [afterSymbol?, after?_of_take?_eq_some taken]
  rfl

theorem run_expect (symbol : Symbol) (ts : List Lexeme) :
    run (expect symbol) ts =
      match afterSymbol? symbol ts with
      | some rest => .ok ((), rest)
      | none => .error (.expected symbol (current ts).item) := by
  rw [run, expect]
  cases taken : takeSymbol? symbol ts with
  | none =>
      rw [afterSymbol?_of_takeSymbol?_eq_none taken]
      rfl
  | some parsed =>
      rw [afterSymbol?_of_takeSymbol?_eq_some taken]
      rfl

theorem runExtend_eq (step : Step α) (a : α) (ts : List Lexeme) :
    runExtend step a ts = runStep step a ts >>= fun
      | none => .ok (a, ts)
      | some (next, rest) => runExtend step next rest := by
  rw [runExtend, extend, runStep]
  cases step a ts with
  | error fault => rfl
  | ok applied =>
      cases applied with
      | none => rfl
      | some parsed =>
          simp only [ok_bind, runExtend]
          cases extend step parsed.result parsed.rest <;> rfl

theorem run_extending (first : Parser α) (step : Step α) (ts : List Lexeme) :
    run (extending first step) ts =
      run first ts >>= fun taken => runExtend step taken.1 taken.2 := by
  rw [run, extending, run]
  cases first ts with
  | error fault => rfl
  | ok start =>
      simp only [outcome, ok_bind, runExtend]
      cases extend step start.result start.rest <;> rfl

theorem run_listUntil (close : Symbol) (element : Parser α) (ts : List Lexeme) :
    run (listUntil close element) ts =
      match afterSymbol? close ts with
      | some rest => .ok ([], rest)
      | none => run element ts >>= fun first =>
          match afterSymbol? .comma first.2 with
          | none => run (expect close) first.2 >>= fun closed => .ok ([first.1], closed.2)
          | some more => run (listUntil close element) more >>= fun others =>
              .ok (first.1 :: others.1, others.2) := by
  rw [run, listUntil]
  cases closes : takeSymbol? close ts with
  | some closed =>
      rw [afterSymbol?_of_takeSymbol?_eq_some closes]
      rfl
  | none =>
      rw [afterSymbol?_of_takeSymbol?_eq_none closes, run]
      cases element ts with
      | error fault => rfl
      | ok first =>
          simp only [outcome, ok_bind]
          cases comma : takeSymbol? .comma first.rest with
          | none =>
              simp only [afterSymbol?_of_takeSymbol?_eq_none comma, run]
              cases expect close first.rest <;> rfl
          | some mark =>
              simp only [afterSymbol?_of_takeSymbol?_eq_some comma, run]
              cases listUntil close element mark.rest <;> rfl

/-! ## The parsers of the grammar -/

variable (l : Level) (ts : List Lexeme)

theorem run_primary :
    run (primary l) ts =
      match afterSymbol? .leftParen ts with
      | some inside => run l.nested inside >>= fun inner =>
          run (expect .rightParen) inner.2 >>= fun closed => .ok (inner.1, closed.2)
      | none =>
          match afterSymbol? .leftBracket ts with
          | some inside => run l.items inside >>= fun items => .ok (array items.1, items.2)
          | none =>
              match after? atom? ts with
              | some atom => .ok atom
              | none => .error (atomFault (current ts).item) := by
  rw [run, primary]
  cases paren : takeSymbol? .leftParen ts with
  | some inside =>
      rw [afterSymbol?_of_takeSymbol?_eq_some paren]
      exact outcome_bind fun inner => outcome_bind fun closed => rfl
  | none =>
      rw [afterSymbol?_of_takeSymbol?_eq_none paren]
      cases bracket : takeSymbol? .leftBracket ts with
      | some inside =>
          rw [afterSymbol?_of_takeSymbol?_eq_some bracket]
          exact outcome_bind fun items => rfl
      | none =>
          rw [afterSymbol?_of_takeSymbol?_eq_none bracket]
          cases atom : take? atom? ts with
          | some parsed =>
              rw [after?_of_take?_eq_some atom]
              rfl
          | none =>
              rw [after?_of_take?_eq_none atom]
              rfl

theorem run_base :
    run (base l) ts =
      match after? isNew? ts with
      | some (_, rest) => run l.construction rest
      | none => run (primary l) ts := by
  rw [run, base]
  cases new : take? isNew? ts with
  | some mark =>
      rw [after?_of_take?_eq_some new]
      simp only [run]
      cases l.construction mark.rest <;> rfl
  | none =>
      rw [after?_of_take?_eq_none new]
      rfl

theorem runStep_accessStep (object : Expr) :
    runStep (accessStep l) object ts =
      match afterSymbol? .dot ts with
      | some behind =>
          match after? propertyName? behind with
          | some (property, rest) => .ok (some (member object property, rest))
          | none => .error (.propertyExpected (current behind).item)
      | none =>
          match afterSymbol? .leftBracket ts with
          | some inside => run l.nested inside >>= fun key =>
              run (expect .rightBracket) key.2 >>= fun closed =>
                .ok (some (index object key.1, closed.2))
          | none => .ok none := by
  rw [runStep, accessStep]
  cases dot : takeSymbol? .dot ts with
  | some behind =>
      rw [afterSymbol?_of_takeSymbol?_eq_some dot]
      cases property : take? propertyName? behind.rest with
      | some name =>
          simp only [property, after?_of_take?_eq_some property]
          rfl
      | none =>
          simp only [property, after?_of_take?_eq_none property]
          rfl
  | none =>
      rw [afterSymbol?_of_takeSymbol?_eq_none dot]
      cases bracket : takeSymbol? .leftBracket ts with
      | some inside =>
          simp only [afterSymbol?_of_takeSymbol?_eq_some bracket, run]
          cases l.nested inside.rest with
          | error fault => rfl
          | ok key =>
              simp only [outcome, ok_bind]
              cases expect .rightBracket key.rest <;> rfl
      | none =>
          simp only [afterSymbol?_of_takeSymbol?_eq_none bracket]

theorem runStep_postfixStep (object : Expr) :
    runStep (postfixStep l) object ts =
      match afterSymbol? .leftParen ts with
      | some inside => run (listUntil .rightParen l.nested) inside >>= fun args =>
          .ok (some (call object args.1, args.2))
      | none => runStep (accessStep l) object ts := by
  rw [runStep, postfixStep]
  cases paren : takeSymbol? .leftParen ts with
  | some inside =>
      simp only [afterSymbol?_of_takeSymbol?_eq_some paren, run]
      cases listUntil .rightParen l.nested inside.rest <;> rfl
  | none =>
      rw [afterSymbol?_of_takeSymbol?_eq_none paren]
      rfl

theorem run_construction :
    run (construction l) ts =
      run (extending (base l) (accessStep l)) ts >>= fun target =>
        match afterSymbol? .leftParen target.2 with
        | some inside => run (listUntil .rightParen l.nested) inside >>= fun args =>
            .ok (new target.1 args.1, args.2)
        | none => .ok (new target.1 [], target.2) := by
  rw [run, construction]
  apply outcome_bind
  intro target
  cases paren : takeSymbol? .leftParen target.rest with
  | some inside =>
      rw [afterSymbol?_of_takeSymbol?_eq_some paren]
      exact outcome_bind fun args => rfl
  | none =>
      rw [afterSymbol?_of_takeSymbol?_eq_none paren]
      rfl

theorem run_unaries :
    run (unaries l) ts =
      match after? UnaryOp.ofToken? ts with
      | some (op, rest) => run l.operand rest >>= fun operand =>
          .ok (unary op operand.1, operand.2)
      | none => run (postfixed l) ts := by
  rw [run, unaries]
  cases taken : take? UnaryOp.ofToken? ts with
  | some op =>
      rw [after?_of_take?_eq_some taken]
      exact outcome_bind fun operand => rfl
  | none =>
      rw [after?_of_take?_eq_none taken]
      rfl

theorem runStep_binaryStep (row : List BinaryOp) (operand : Parser Expr) (left : Expr) :
    runStep (binaryStep row operand) left ts =
      match after? (operatorOf? row) ts with
      | some (op, rest) => run operand rest >>= fun right =>
          .ok (some (binary op left right.1, right.2))
      | none => .ok none := by
  rw [runStep, binaryStep]
  cases taken : take? (operatorOf? row) ts with
  | some op =>
      simp only [after?_of_take?_eq_some taken, run]
      cases operand op.rest <;> rfl
  | none =>
      simp only [after?_of_take?_eq_none taken]

theorem run_conditionals :
    run (conditionals l) ts =
      run (binaries l BinaryOp.rows) ts >>= fun test =>
        match afterSymbol? .question test.2 with
        | some inside => run l.nested inside >>= fun consequent =>
            run (expect .colon) consequent.2 >>= fun colon =>
              run l.nested colon.2 >>= fun alternate =>
                .ok (conditional test.1 consequent.1 alternate.1, alternate.2)
        | none => .ok test := by
  rw [run, conditionals]
  apply outcome_bind
  intro test
  cases mark : takeSymbol? .question test.rest with
  | some inside =>
      rw [afterSymbol?_of_takeSymbol?_eq_some mark]
      exact outcome_bind fun consequent => outcome_bind fun colon =>
        outcome_bind fun alternate => rfl
  | none =>
      rw [afterSymbol?_of_takeSymbol?_eq_none mark]
      rfl

end Stencil.Expr
