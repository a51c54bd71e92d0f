import Stencil.Proofs.Expr.Grammar
import Stencil.Proofs.Expr.Reading

/-!
# The tokens of the grammar

The tables of the parser list the tokens that the grammar asks for.  Which token comes next decides
between the rules: a phrase goes on as long as a token holds on to it, and what a phrase begins with
tells its kind.
-/

namespace Stencil

/-! ## Tables -/

theorem UnaryOp.ofToken?_eq_some_iff {token : Token} {op : UnaryOp} :
    UnaryOp.ofToken? token = some op ↔ token = op.token := by
  constructor
  · intro read
    unfold UnaryOp.ofToken? at read
    split at read <;> cases read <;> rfl
  · rintro rfl
    cases op <;> rfl

theorem BinaryOp.ofToken?_eq_some_iff {token : Token} {op : BinaryOp} :
    BinaryOp.ofToken? token = some op ↔ token = op.token := by
  constructor
  · intro read
    unfold BinaryOp.ofToken? at read
    split at read <;> cases read <;> rfl
  · rintro rfl
    cases op <;> rfl

/-- The operators of one tightness. -/
def BinaryOp.row (tightness : Nat) : List BinaryOp :=
  BinaryOp.rows[tightness]?.getD []

theorem BinaryOp.contains_row_iff {tightness : Nat} {op : BinaryOp} :
    (BinaryOp.row tightness).contains op = true ↔ op.tightness = tightness := by
  match tightness with
  | 0 | 1 | 2 | 3 | 4 | 5 => cases op <;> decide
  | n + 6 => cases op <;> simp [BinaryOp.row, BinaryOp.rows, BinaryOp.tightness]

namespace Expr

theorem isSymbol?_eq_some_iff {symbol : Symbol} {token : Token} {taken : Unit} :
    isSymbol? symbol token = some taken ↔ token = .symbol symbol := by
  unfold isSymbol?
  split <;> simp_all

theorem isNew?_eq_some_iff {token : Token} {taken : Unit} :
    isNew? token = some taken ↔ token = .keyword .new := by
  unfold isNew?
  split <;> simp_all

theorem operatorOf?_row_eq_some_iff {tightness : Nat} {token : Token} {op : BinaryOp} :
    operatorOf? (BinaryOp.row tightness) token = some op ↔
      token = op.token ∧ op.tightness = tightness := by
  rw [operatorOf?, Option.filter_eq_some_iff, BinaryOp.ofToken?_eq_some_iff,
    BinaryOp.contains_row_iff]

theorem atom?_eq_some_iff {token : Token} {e : Expr} :
    atom? token = some e ↔ IsAtom token e := by
  constructor
  · intro read
    unfold atom? at read
    split at read
    case h_8 name =>
      split at read
      · cases read
      · rename_i free
        cases read
        exact .var (by simpa using free)
    case h_9 name =>
      split at read
      · rename_i isIndex
        cases read
        exact isIndex ▸ .loopIndex
      · cases read
    all_goals cases read
    all_goals constructor
  · intro atom
    cases atom with
    | var free => simp [atom?, free]
    | _ => rfl

theorem propertyName?_eq_some_iff {token : Token} {name : String} :
    propertyName? token = some name ↔ IsProperty token name := by
  constructor
  · intro read
    unfold propertyName? at read
    split at read <;> cases read <;> constructor
  · rintro (_ | _) <;> rfl

/-! ## First tokens -/

theorem after?_eq_some_iff {α : Type} {accepts : Token → Option α} {ts rest : List Lexeme}
    {a : α} :
    after? accepts ts = some (a, rest) ↔ ∃ t, ts = t :: rest ∧ accepts t.item = some a := by
  cases ts with
  | nil => simp [after?]
  | cons t more =>
      constructor
      · intro taken
        rcases Option.map_eq_some_iff.mp taken with ⟨_, accepted, same⟩
        cases same
        exact ⟨t, rfl, accepted⟩
      · rintro ⟨_, same, accepted⟩
        cases same
        simp only [after?, accepted, Option.map_some]

theorem after?_eq_none_iff {α : Type} {accepts : Token → Option α} {ts : List Lexeme} :
    after? accepts ts = none ↔ ∀ t ∈ ts.head?, accepts t.item = none := by
  cases ts with
  | nil => simp [after?]
  | cons t rest => simp [after?]

theorem afterSymbol?_eq_some_iff {symbol : Symbol} {ts rest : List Lexeme} :
    afterSymbol? symbol ts = some rest ↔ ∃ t, ts = t :: rest ∧ t.item = .symbol symbol := by
  constructor
  · intro taken
    rcases Option.map_eq_some_iff.mp taken with ⟨⟨_, more⟩, read, rfl⟩
    rcases after?_eq_some_iff.mp read with ⟨t, rfl, accepted⟩
    exact ⟨t, rfl, isSymbol?_eq_some_iff.mp accepted⟩
  · rintro ⟨t, rfl, isSymbol⟩
    have accepted : isSymbol? symbol t.item = some () := isSymbol?_eq_some_iff.mpr isSymbol
    rw [afterSymbol?, after?_eq_some_iff.mpr ⟨t, rfl, accepted⟩]
    rfl

theorem afterSymbol?_eq_none_iff {symbol : Symbol} {ts : List Lexeme} :
    afterSymbol? symbol ts = none ↔ ∀ t ∈ ts.head?, t.item ≠ .symbol symbol := by
  simp only [afterSymbol?, Option.map_eq_none_iff, after?_eq_none_iff, isSymbol?]
  constructor
  · intro refused t mem same
    simpa [same] using refused t mem
  · intro differs t mem
    rw [if_neg (differs t mem)]

theorem afterSymbol?_cons_self {symbol : Symbol} {t : Lexeme} {rest : List Lexeme}
    (isSymbol : t.item = .symbol symbol) : afterSymbol? symbol (t :: rest) = some rest :=
  afterSymbol?_eq_some_iff.mpr ⟨t, rfl, isSymbol⟩

theorem afterSymbol?_cons_of_ne {symbol : Symbol} {t : Lexeme} {rest : List Lexeme}
    (differs : t.item ≠ .symbol symbol) : afterSymbol? symbol (t :: rest) = none := by
  apply afterSymbol?_eq_none_iff.mpr
  intro first mem
  cases mem
  exact differs

/-- How tightly a token holds on to what stands in front of it: not at all, as the mark of a
conditional, as an operator between operands, or as the start of a step. -/
def grip : Token → Nat
  | .symbol .question => 1
  | .symbol .orOr => 2
  | .symbol .andAnd => 3
  | .symbol .strictEq | .symbol .strictNe | .symbol .looseEq | .symbol .looseNe => 4
  | .symbol .lt | .symbol .le | .symbol .gt | .symbol .ge => 5
  | .keyword .instanceof | .keyword .in => 5
  | .symbol .plus | .symbol .minus => 6
  | .symbol .star | .symbol .slash | .symbol .percent => 7
  | .symbol .dot | .symbol .leftBracket | .symbol .leftParen => 8
  | _ => 0

theorem grip_token (op : BinaryOp) : grip op.token = op.tightness + 2 := by
  cases op <;> rfl

/-- What is left does not hold on to a phrase that gives way to less than `bound`. -/
def Ends (bound : Nat) (rest : List Lexeme) : Prop :=
  ∀ t ∈ rest.head?, grip t.item < bound

theorem ends_cons {bound : Nat} {t : Lexeme} {rest : List Lexeme} (less : grip t.item < bound) :
    Ends bound (t :: rest) := by
  intro first mem
  cases mem
  exact less

theorem Ends.mono {bound larger : Nat} {rest : List Lexeme} (ends : Ends bound rest)
    (le : bound ≤ larger) : Ends larger rest :=
  fun t mem => Nat.lt_of_lt_of_le (ends t mem) le

theorem Ends.afterSymbol?_eq_none {bound : Nat} {rest : List Lexeme} (ends : Ends bound rest)
    (symbol : Symbol) (holds : bound ≤ grip (.symbol symbol)) :
    afterSymbol? symbol rest = none := by
  apply afterSymbol?_eq_none_iff.mpr
  intro t mem same
  have less := ends t mem
  rw [same] at less
  omega

theorem Ends.operatorOf?_eq_none {tightness : Nat} {rest : List Lexeme}
    (ends : Ends (tightness + 2) rest) :
    after? (operatorOf? (BinaryOp.row tightness)) rest = none := by
  apply after?_eq_none_iff.mpr
  intro t mem
  apply Option.eq_none_iff_forall_ne_some.mpr
  intro op read
  rcases operatorOf?_row_eq_some_iff.mp read with ⟨same, rfl⟩
  have less := ends t mem
  rw [same, grip_token] at less
  omega

/-- What a token can begin: nothing, an operation, a construction or a primary. -/
def front : Token → Nat
  | .symbol .rightParen | .symbol .rightBracket => 0
  | .symbol .not | .symbol .minus | .symbol .plus | .keyword .typeof => 1
  | .keyword .new => 2
  | _ => 3

theorem front_token (op : UnaryOp) : front op.token = 1 := by
  cases op <;> rfl

/-- What the first token of a phrase can begin. -/
def Phrase.front : Phrase → Nat
  | .items => 0
  | .operation _ | .conditional => 1
  | .chain _ | .construction | .operand => 2
  | .primary => 3

theorem IsAtom.front_eq {token : Token} {e : Expr} (atom : IsAtom token e) :
    Expr.front token = 3 := by
  cases atom <;> rfl

/-- Every phrase but a list of items has a first token, which tells its kind. -/
theorem Derives.exists_front {phrase : Phrase} {height : Nat} {tokens : List Token} {e : Expr}
    (derivation : Derives phrase height tokens e) :
    phrase = .items ∨ ∃ first others, tokens = first :: others ∧ phrase.front ≤ front first := by
  induction derivation with
  | atom atom => exact .inr ⟨_, _, rfl, Nat.le_of_eq atom.front_eq.symm⟩
  | parentheses _ _ => exact .inr ⟨_, _, rfl, Nat.le_refl 3⟩
  | array _ _ => exact .inr ⟨_, _, rfl, Nat.le_refl 3⟩
  | newWith _ _ _ _ => exact .inr ⟨_, _, rfl, Nat.le_refl 2⟩
  | newChain _ _ => exact .inr ⟨_, _, rfl, Nat.le_refl 2⟩
  | newConstruction _ _ => exact .inr ⟨_, _, rfl, Nat.le_refl 2⟩
  | unary op _ _ => exact .inr ⟨_, _, rfl, Nat.le_of_eq (front_token op).symm⟩
  | noItems => exact .inl rfl
  | lastItem _ _ => exact .inl rfl
  | moreItems _ _ _ _ => exact .inl rfl
  | primary _ ih | member _ _ ih | index _ _ ih _ | call _ _ ih _ | chain _ ih
  | construction _ ih | operand _ ih | tighter _ _ ih | binary _ _ _ ih _ | test _ ih
  | conditional _ _ _ ih _ _ =>
      rcases ih with impossible | ⟨first, others, rfl, le⟩
      · cases impossible
      · exact .inr ⟨first, _, rfl, Nat.le_trans (by simp [Phrase.front]) le⟩

/-! ## Chains and operations -/

/-- The tokens of lexemes. -/
abbrev tokensOf (ts : List Lexeme) : List Token :=
  ts.map (·.item)

/-- The step of a chain, with or without calls. -/
def chainStep (l : Level) : Bool → Step Expr
  | true => postfixStep l
  | false => accessStep l

theorem runStep_chainStep {l : Level} {ts : List Lexeme} {calls : Bool} {object : Expr}
    (noCall : afterSymbol? .leftParen ts = none) :
    runStep (chainStep l calls) object ts = runStep (accessStep l) object ts := by
  cases calls with
  | true => simp only [chainStep, runStep_postfixStep, noCall]
  | false => rfl

/-- A chain goes on as long as a token starts a step. -/
theorem runStep_chainStep_of_ends (l : Level) (calls : Bool) (e : Expr) {rest : List Lexeme}
    (ends : Ends 8 rest) : runStep (chainStep l calls) e rest = .ok none := by
  have noDot := ends.afterSymbol?_eq_none .dot (Nat.le_refl 8)
  have noBracket := ends.afterSymbol?_eq_none .leftBracket (Nat.le_refl 8)
  have noParen := ends.afterSymbol?_eq_none .leftParen (Nat.le_refl 8)
  rw [runStep_chainStep noParen, runStep_accessStep]
  simp only [noDot, noBracket]

/-- The parser of operations that bind at least so tightly. -/
def operations (l : Level) (tightness : Nat) : Parser Expr :=
  binaries l (BinaryOp.rows.drop tightness)

/-- One more operator of one tightness with its right operand. -/
def operationStep (l : Level) (tightness : Nat) : Step Expr :=
  binaryStep (BinaryOp.row tightness) (operations l (tightness + 1))

theorem operations_of_lt (l : Level) {tightness : Nat} (loose : tightness < 6) :
    operations l tightness =
      extending (operations l (tightness + 1)) (operationStep l tightness) := by
  match tightness, loose with
  | 0, _ | 1, _ | 2, _ | 3, _ | 4, _ | 5, _ => rfl

end Expr

end Stencil
