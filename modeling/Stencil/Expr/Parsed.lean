import Stencil.Expr.Lexeme

/-!
# Reading from a list of tokens

A parser takes tokens off the front of a list.  What it hands back is shorter than the list it was
given, so that whatever repeats a parser comes to an end.
-/

namespace Stencil.Expr

/-- A result and the tokens that are left, fewer than `bound`. -/
structure Parsed (α : Type) (bound : Nat) where
  result : α
  rest : List Lexeme
  rest_lt : rest.length < bound

/-- Takes at least one token off a list, or tells what is wrong with it. -/
abbrev Parser (α : Type) :=
  (ts : List Lexeme) → Except (Located Fault) (Parsed α ts.length)

namespace Parsed

variable {α β : Type} {m n : Nat}

/-- The same result under a larger bound. -/
def widen (parsed : Parsed α m) (within : m ≤ n) : Parsed α n :=
  ⟨parsed.result, parsed.rest, Nat.lt_of_lt_of_le parsed.rest_lt within⟩

/-- Another result with the same tokens left. -/
def withResult (parsed : Parsed α n) (result : β) : Parsed β n :=
  ⟨result, parsed.rest, parsed.rest_lt⟩

end Parsed

/-- The first token; a list without tokens has nothing but its end. -/
def current : List Lexeme → Lexeme
  | [] => ⟨0, .stop⟩
  | t :: _ => t

/-- A fault at the first token. -/
def faultAt {α : Type} (ts : List Lexeme) (fault : Token → Fault) : Except (Located Fault) α :=
  .error ⟨(current ts).offset, fault (current ts).item⟩

/-- The first token if a test accepts it. -/
def take? {α : Type} (accepts : Token → Option α) (ts : List Lexeme) :
    Option (Parsed α ts.length) :=
  match ts with
  | [] => none
  | t :: rest => (accepts t.item).map fun a => ⟨a, rest, Nat.lt_succ_self _⟩

/-- Whether a token is a symbol. -/
def isSymbol? (symbol : Symbol) (t : Token) : Option Unit :=
  if t = .symbol symbol then some () else none

/-- A symbol, if it comes first. -/
def takeSymbol? (symbol : Symbol) (ts : List Lexeme) : Option (Parsed Unit ts.length) :=
  take? (isSymbol? symbol) ts

/-- A symbol that has to come first. -/
def expect (symbol : Symbol) : Parser Unit := fun ts =>
  match takeSymbol? symbol ts with
  | some taken => .ok taken
  | none => faultAt ts (.expected symbol)

/-- A result extended by a step as long as the step applies. -/
def extend {α : Type}
    (step : α → (ts : List Lexeme) → Except (Located Fault) (Option (Parsed α ts.length)))
    (result : α) (ts : List Lexeme) : Except (Located Fault) (Parsed α (ts.length + 1)) :=
  match step result ts with
  | .error fault => .error fault
  | .ok none => .ok ⟨result, ts, Nat.lt_succ_self _⟩
  | .ok (some next) =>
      match extend step next.result next.rest with
      | .error fault => .error fault
      | .ok last => .ok (last.widen (Nat.succ_le_succ (Nat.le_of_lt next.rest_lt)))
termination_by ts.length
decreasing_by exact next.rest_lt

/-- A parser whose result is extended by a step as long as the step applies. -/
def extending {α : Type} (first : Parser α)
    (step : α → (ts : List Lexeme) → Except (Located Fault) (Option (Parsed α ts.length))) :
    Parser α := fun ts =>
  match first ts with
  | .error fault => .error fault
  | .ok start =>
      match extend step start.result start.rest with
      | .error fault => .error fault
      | .ok last => .ok (last.widen start.rest_lt)

/-- Elements between commas up to a closing symbol.  A comma may precede the closing symbol. -/
def listUntil {α : Type} (close : Symbol) (element : Parser α) : Parser (List α) := fun ts =>
  match takeSymbol? close ts with
  | some closed => .ok (closed.withResult [])
  | none =>
      match element ts with
      | .error fault => .error fault
      | .ok first =>
          match takeSymbol? .comma first.rest with
          | none =>
              match expect close first.rest with
              | .error fault => .error fault
              | .ok closed =>
                  .ok ((closed.withResult [first.result]).widen (Nat.le_of_lt first.rest_lt))
          | some comma =>
              match listUntil close element comma.rest with
              | .error fault => .error fault
              | .ok others =>
                  .ok ((others.withResult (first.result :: others.result)).widen
                    (Nat.le_of_lt (Nat.lt_trans comma.rest_lt first.rest_lt)))
termination_by ts => ts.length
decreasing_by exact Nat.lt_trans comma.rest_lt first.rest_lt

end Stencil.Expr
