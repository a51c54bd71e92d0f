import Stencil.Expr.Parser

/-!
# Parsing with one cursor

An expression can be parsed by walks along its tokens that share one cursor: the place of the next
token, which stays at the last token once it has come there, and the count of levels that are open,
which a walk raises before and lowers behind everything that is one level deeper.  Walks call each
other, and nothing that they pass on to each other gets less, so it is not plain that a walk comes
to an end, that it stays among the tokens, or that it closes no level that is not open.  A walk here
is given how many calls may be under way inside of each other, and has no end if that is too few.
-/

namespace Stencil.Expr

/-- The place of the next token and the count of open levels. -/
structure Cursor where
  place : Nat
  depth : Nat

/-- Why a walk halts without a result. -/
inductive Halt where
  | fault (fault : Located Fault)
  /-- There is no token at the place, or no level is open. -/
  | crash

/-- What moves the cursor and gives a result or halts, or has no end. -/
abbrev Walk (α : Type) :=
  ExceptT Halt (StateT Cursor Option) α

/-- The end of a walk that starts with a cursor, and where the cursor is then. -/
def Walk.outcome {α : Type} (walk : Walk α) (start : Cursor) : Option (Except Halt α × Cursor) :=
  walk start

section

variable {α : Type} (ts : List Lexeme)

/-- A walk that would take one more call. -/
def endless : Walk α := fun _ =>
  none

/-! ## Single tokens -/

/-- The next token. -/
def nextToken : Walk Lexeme := do
  match ts[min (← get).place (ts.length - 1)]? with
  | some t => pure t
  | none => throw .crash

/-- A fault at the next token. -/
def halt (fault : Token → Fault) : Walk α := do
  let t ← nextToken ts
  throw (.fault ⟨t.offset, fault t.item⟩)

/-- Moves behind the next token unless it is the last one. -/
def advance : Walk Unit :=
  modify fun c => if c.place < ts.length - 1 then { c with place := c.place + 1 } else c

/-- The next token if a test accepts it. -/
def walkTake? (accepts : Token → Option α) : Walk (Option α) := do
  match accepts (← nextToken ts).item with
  | some a => do
      advance ts
      pure (some a)
  | none => pure none

/-- A symbol, if it comes next. -/
def walkSymbol? (symbol : Symbol) : Walk (Option Unit) :=
  walkTake? ts (isSymbol? symbol)

/-- A symbol that has to come next. -/
def walkExpect (symbol : Symbol) : Walk Unit := do
  match ← walkSymbol? ts symbol with
  | some _ => pure ()
  | none => halt ts (.expected symbol)

/-- The name of a property. -/
def walkProperty : Walk String := do
  match ← walkTake? ts propertyName? with
  | some property => pure property
  | none => halt ts .propertyExpected

/-! ## Levels -/

/-- Opens a level. -/
def enter : Walk Unit := do
  modify fun c => { c with depth := c.depth + 1 }
  if levelLimit < (← get).depth then halt ts fun _ => .tooDeep

/-- Closes a level. -/
def leave : Walk Unit := do
  match (← get).depth with
  | 0 => throw .crash
  | depth + 1 => modify fun c => { c with depth }

/-- A walk one level deeper. -/
def inLevel (walk : Walk α) : Walk α := do
  enter ts
  let a ← walk
  leave
  pure a

/-! ## The grammar -/

mutual

/-- An expression, one level deeper. -/
def walkConditional : Nat → Walk Expr
  | 0 => endless
  | calls + 1 => inLevel ts (walkBranches calls)

/-- A conditional, or its test alone. -/
def walkBranches : Nat → Walk Expr
  | 0 => endless
  | calls + 1 => do
      let test ← walkBinary BinaryOp.rows calls
      match ← walkSymbol? ts .question with
      | some _ => do
          let consequent ← walkConditional calls
          walkExpect ts .colon
          let alternate ← walkConditional calls
          pure (conditional test consequent alternate)
      | none => pure test

/-- Operators between operands, by rows. -/
def walkBinary : List (List BinaryOp) → Nat → Walk Expr
  | _, 0 => endless
  | [], calls + 1 => walkUnary calls
  | row :: tighter, calls + 1 => do
      let left ← walkBinary tighter calls
      walkOperators row tighter left calls

/-- One more operator of a row with its right operand. -/
def walkOperator (row : List BinaryOp) (tighter : List (List BinaryOp)) (left : Expr) :
    Nat → Walk (Option Expr)
  | 0 => endless
  | calls + 1 => do
      match ← walkTake? ts (operatorOf? row) with
      | some op => do
          let right ← walkBinary tighter calls
          pure (some (binary op left right))
      | none => pure none

/-- Operators of a row as long as there are any. -/
def walkOperators (row : List BinaryOp) (tighter : List (List BinaryOp)) (left : Expr) :
    Nat → Walk Expr
  | 0 => endless
  | calls + 1 => do
      match ← walkOperator row tighter left calls with
      | some next => walkOperators row tighter next calls
      | none => pure left

/-- Operators in front of an operand. -/
def walkUnary : Nat → Walk Expr
  | 0 => endless
  | calls + 1 => do
      match ← walkTake? ts UnaryOp.ofToken? with
      | some op => do
          let operand ← inLevel ts (walkUnary calls)
          pure (unary op operand)
      | none => walkPostfix calls

/-- Member access and calls. -/
def walkPostfix : Nat → Walk Expr
  | 0 => endless
  | calls + 1 => do
      let start ← walkBase calls
      walkPostfixSteps start calls

/-- What member access and calls apply to. -/
def walkBase : Nat → Walk Expr
  | 0 => endless
  | calls + 1 => do
      match isNew? (← nextToken ts).item with
      | some _ => walkNew calls
      | none => walkPrimary calls

/-- Access to a member, or a call. -/
def walkPostfixStep (object : Expr) : Nat → Walk (Option Expr)
  | 0 => endless
  | calls + 1 => do
      match ← walkSymbol? ts .leftParen with
      | some _ => do
          let args ← walkList .rightParen calls
          pure (some (call object args))
      | none => walkAccessStep object calls

/-- Member access and calls as long as there are any. -/
def walkPostfixSteps (object : Expr) : Nat → Walk Expr
  | 0 => endless
  | calls + 1 => do
      match ← walkPostfixStep object calls with
      | some next => walkPostfixSteps next calls
      | none => pure object

/-- Access to a member by name or by a computed key. -/
def walkAccessStep (object : Expr) : Nat → Walk (Option Expr)
  | 0 => endless
  | calls + 1 => do
      match ← walkSymbol? ts .dot with
      | some _ => do
          let property ← walkProperty ts
          pure (some (member object property))
      | none =>
          match ← walkSymbol? ts .leftBracket with
          | some _ => do
              let key ← walkConditional calls
              walkExpect ts .rightBracket
              pure (some (index object key))
          | none => pure none

/-- Member access as long as there is any. -/
def walkAccessSteps (object : Expr) : Nat → Walk Expr
  | 0 => endless
  | calls + 1 => do
      match ← walkAccessStep object calls with
      | some next => walkAccessSteps next calls
      | none => pure object

/-- A construction: its first token, and what follows the token, one level deeper. -/
def walkNew : Nat → Walk Expr
  | 0 => endless
  | calls + 1 => do
      advance ts
      inLevel ts (walkTarget calls)

/-- The target and the arguments of a construction. -/
def walkTarget : Nat → Walk Expr
  | 0 => endless
  | calls + 1 => do
      let start ← walkBase calls
      let target ← walkAccessSteps start calls
      match ← walkSymbol? ts .leftParen with
      | some _ => do
          let args ← walkList .rightParen calls
          pure (new target args)
      | none => pure (new target [])

/-- Elements between commas up to a closing symbol. -/
def walkList (close : Symbol) : Nat → Walk (List Expr)
  | 0 => endless
  | calls + 1 => do
      match ← walkSymbol? ts close with
      | some _ => pure []
      | none => do
          let first ← walkConditional calls
          match ← walkSymbol? ts .comma with
          | some _ => do
              let others ← walkList close calls
              pure (first :: others)
          | none => do
              walkExpect ts close
              pure [first]

/-- What stands alone. -/
def walkPrimary : Nat → Walk Expr
  | 0 => endless
  | calls + 1 => do
      match ← walkSymbol? ts .leftParen with
      | some _ => do
          let inner ← walkConditional calls
          walkExpect ts .rightParen
          pure inner
      | none =>
          match ← walkSymbol? ts .leftBracket with
          | some _ => do
              let items ← inLevel ts (walkList .rightBracket calls)
              pure (array items)
          | none =>
              match ← walkTake? ts atom? with
              | some e => pure e
              | none => halt ts atomFault

end

/-- An expression that takes all tokens but the last one. -/
def walkExpr (calls : Nat) : Walk Expr := do
  let e ← walkConditional ts calls
  if (← nextToken ts).item = .stop then pure e else halt ts .unexpected

end

/-- The expression that a text spells. -/
def walkParse (source : String) (calls : Nat) : Option (Except Halt Expr) :=
  match scan source with
  | .error fault => some (.error (.fault fault))
  | .ok ts => ((walkExpr ts calls).outcome ⟨0, 0⟩).map Prod.fst

end Stencil.Expr
