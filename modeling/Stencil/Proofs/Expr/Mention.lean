import Mathlib.Data.List.ReduceOption
import Stencil.Proofs.Expr.Recognition

/-!
# Names among tokens

The names that an expression mentions can be read off its tokens: they are the names that do not
stand directly behind a dot, in the order of the tokens.  Strings are tokens of their own, so no
name in a string is among them.
-/

namespace Stencil

/-- The name that a token is. -/
def Token.name? : Token → Option String
  | name s => some s
  | _ => none

theorem Token.name?_eq_some_iff {token : Token} {s : String} :
    token.name? = some s ↔ token = .name s := by
  cases token <;> simp [name?]

namespace Expr

/-- A token mentions a name: it is that name and does not stand directly behind a dot. -/
structure Mentions (tokens : List Token) (place : Nat) (name : String) : Prop where
  isName : tokens[place]? = some (.name name)
  notProperty : ∀ before, before + 1 = place → tokens[before]? ≠ some (.symbol .dot)

theorem mentions_cons_zero_iff {token : Token} {rest : List Token} {name : String} :
    Mentions (token :: rest) 0 name ↔ token = .name name := by
  constructor
  · rintro ⟨isName, _⟩
    exact Option.some.inj isName
  · rintro rfl
    exact ⟨rfl, nofun⟩

theorem mentions_cons_succ_iff {token : Token} {rest : List Token} {place : Nat} {name : String} :
    Mentions (token :: rest) (place + 1) name ↔
      Mentions rest place name ∧ (place = 0 → token ≠ .symbol .dot) := by
  constructor
  · rintro ⟨isName, notProperty⟩
    constructor
    · refine ⟨isName, fun before next => ?_⟩
      exact notProperty (before + 1) (congrArg (· + 1) next)
    · rintro rfl isDot
      exact notProperty 0 rfl (congrArg some isDot)
  · rintro ⟨⟨isName, notProperty⟩, notBehindDot⟩
    refine ⟨isName, fun before next => ?_⟩
    cases before with
    | zero =>
        have isFirst : place = 0 := (Nat.succ.inj next).symm
        simpa using notBehindDot isFirst
    | succ earlier => exact notProperty earlier (Nat.succ.inj next)

/-- For each of some tokens the name that it mentions.  The first one may stand behind a dot. -/
def nameSlots : Bool → List Token → List (Option String)
  | _, [] => []
  | behindDot, token :: rest =>
      (if behindDot then none else token.name?) :: nameSlots (token == .symbol .dot) rest

theorem getElem?_nameSlots_iff {behindDot : Bool} {tokens : List Token} {place : Nat}
    {name : String} :
    (nameSlots behindDot tokens)[place]? = some (some name) ↔
      Mentions tokens place name ∧ (place = 0 → behindDot = false) := by
  induction tokens generalizing behindDot place with
  | nil =>
      constructor
      · intro found
        cases found
      · rintro ⟨⟨found, _⟩, _⟩
        cases found
  | cons token rest ih =>
      cases place with
      | zero =>
          rw [mentions_cons_zero_iff, ← Token.name?_eq_some_iff]
          cases behindDot <;> simp [nameSlots]
      | succ before =>
          rw [nameSlots, List.getElem?_cons_succ, ih, mentions_cons_succ_iff]
          simp

/-! ## Phrases -/

/-- The names that some tokens mention, in order. -/
def mentioned (behindDot : Bool) (tokens : List Token) : List String :=
  (nameSlots behindDot tokens).reduceOption

section

variable {rest : List Token}

@[simp]
theorem mentioned_dot : mentioned false (.symbol .dot :: rest) = mentioned true rest :=
  rfl

/-- A symbol that is not a dot mentions nothing. -/
@[simp]
theorem mentioned_symbol {symbol : Symbol} (notDot : symbol ≠ .dot) :
    mentioned false (.symbol symbol :: rest) = mentioned false rest := by
  have different : (Token.symbol symbol == .symbol .dot) = false := by simpa using notDot
  rw [mentioned, nameSlots, different]
  rfl

@[simp]
theorem mentioned_keyword (keyword : Keyword) :
    mentioned false (.keyword keyword :: rest) = mentioned false rest :=
  rfl

theorem mentioned_atom {token : Token} {e : Expr} (atom : IsAtom token e) :
    mentioned false (token :: rest) = e.names ++ mentioned false rest := by
  cases atom <;> rfl

/-- The name of a property is not mentioned. -/
theorem mentioned_property {token : Token} {property : String}
    (isProperty : IsProperty token property) :
    mentioned true (token :: rest) = mentioned false rest := by
  cases isProperty <;> rfl

@[simp]
theorem mentioned_unaryOp (op : UnaryOp) :
    mentioned false (op.token :: rest) = mentioned false rest := by
  cases op <;> rfl

@[simp]
theorem mentioned_binaryOp (op : BinaryOp) :
    mentioned false (op.token :: rest) = mentioned false rest := by
  cases op <;> rfl

end

/-- The tokens of a phrase mention the names that its expression mentions, whatever follows. -/
theorem Derives.mentioned_append {phrase : Phrase} {height : Nat} {tokens : List Token} {e : Expr}
    (derivation : Derives phrase height tokens e) (rest : List Token) :
    mentioned false (tokens ++ rest) = e.names ++ mentioned false rest := by
  induction derivation generalizing rest with
  | atom atom => exact mentioned_atom atom
  | parentheses _ ih => simp [ih]
  | array _ ih => simp [ih]
  | newWith _ _ targetIh argsIh => simp [targetIh, argsIh, names]
  | member _ isProperty ih => simp [ih, mentioned_property isProperty, names]
  | index _ _ objectIh keyIh => simp [objectIh, keyIh, names]
  | call _ _ calleeIh argsIh => simp [calleeIh, argsIh, names]
  | newChain _ ih => simp [ih, names, namesOfAll]
  | newConstruction _ ih => simp [ih, names, namesOfAll]
  | unary op _ ih => simp [ih, names]
  | binary op _ _ leftIh rightIh => simp [leftIh, rightIh, names]
  | conditional _ _ _ testIh thenIh elseIh => simp [testIh, thenIh, elseIh, names]
  | noItems => rfl
  | lastItem _ ih => simp [ih, names, namesOfAll]
  | moreItems _ _ firstIh restIh => simp [firstIh, restIh, names, namesOfAll]
  | primary _ ih | chain _ ih | construction _ ih | operand _ ih | tighter _ _ ih | test _ ih =>
      exact ih rest

/-- A text that spells an expression has tokens that mention the names of the expression. -/
theorem mentioned_of_parse {source : String} {e : Expr} (parsed : parse source = .ok e) :
    ∃ lexemes, scan source = .ok lexemes ∧ mentioned false (tokensOf lexemes) = e.names := by
  rcases bind_eq_ok_iff.mp parsed with ⟨lexemes, scanned, parsed⟩
  refine ⟨lexemes, scanned, ?_⟩
  rcases exists_of_scanFrom scanned with ⟨body, last, rfl, isStop, noStop⟩
  rcases derives_of_ofLexemes noStop isStop parsed with ⟨height, derivation⟩
  have last_eq : mentioned false [last.item] = [] := by
    rw [isStop]
    rfl
  rw [tokensOf, List.map_append, List.map_singleton, derivation.mentioned_append, last_eq,
    List.append_nil]

end Expr

end Stencil
