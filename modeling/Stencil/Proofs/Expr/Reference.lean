import Stencil.Proofs.Expr.Lookahead
import Stencil.Proofs.Expr.Mention
import Stencil.Proofs.Expr.Printing
import Stencil.Proofs.Expr.Spacing

/-!
# Referring to names

The names that can name a variable are the names that expressions can refer to: each of them is an
expression by itself, and no other name is ever mentioned.  A property may have any name, and its
name behind a point makes a longer expression of every text to which a point can be added.
-/

namespace Stencil.Expr

open Text

variable {phrase : Phrase} {tightness height : Nat} {tokens : List Token} {e : Expr} {name : String}
  {source : String}

/-! ## Mentioned names -/

/-- No derived expression mentions a reserved word. -/
theorem Derives.isReserved_eq_false (derivation : Derives phrase height tokens e) :
    ∀ name ∈ e.names, Name.isReserved name = false := by
  induction derivation with
  | atom atom =>
      cases atom with
      | var free => simpa [names] using free
      | _ => simp [names]
  | parentheses _ ih | array _ ih | primary _ ih | chain _ ih | construction _ ih | operand _ ih
  | tighter _ _ ih | test _ ih => exact ih
  | newWith _ _ targetIh argsIh =>
      simp only [names] at argsIh ⊢
      exact List.forall_mem_append.mpr ⟨targetIh, argsIh⟩
  | member _ _ ih => exact ih
  | index _ _ objectIh keyIh => exact List.forall_mem_append.mpr ⟨objectIh, keyIh⟩
  | call _ _ calleeIh argsIh => 
      simp only [names] at argsIh ⊢
      exact List.forall_mem_append.mpr ⟨calleeIh, argsIh⟩
  | newChain _ ih | newConstruction _ ih => simpa [names, namesOfAll] using ih
  | unary op _ ih => exact ih
  | binary op _ _ leftIh rightIh => exact List.forall_mem_append.mpr ⟨leftIh, rightIh⟩
  | conditional _ _ _ testIh thenIh elseIh =>
      simp only [names, List.forall_mem_append]
      exact ⟨⟨testIh, thenIh⟩, elseIh⟩
  | noItems => simp [names, namesOfAll]
  | lastItem _ ih => simpa [names, namesOfAll] using ih
  | moreItems _ _ firstIh restIh =>
      simp only [names] at restIh ⊢
      exact List.forall_mem_append.mpr ⟨firstIh, restIh⟩

theorem mem_of_mem_mentioned {behindDot : Bool} (mem : name ∈ mentioned behindDot tokens) :
    .name name ∈ tokens := by
  rcases List.mem_iff_getElem?.mp (List.reduceOption_mem_iff.mp mem) with ⟨place, found⟩
  exact List.mem_of_getElem? (getElem?_nameSlots_iff.mp found).1.isName

/-- A written name is a name. -/
theorem WritesToken.isName {written : List Char} (writes : WritesToken written (.name name)) :
    Name.isName name.toList = true := by
  generalize token_eq : Token.name name = token at writes
  cases writes with
  | @word word isName =>
      unfold Token.ofWord at token_eq
      split at token_eq
      · cases token_eq
      · cases token_eq
        rwa [String.toList_ofList]
  | _ => cases token_eq

/-- An expression refers only to names that can name a variable. -/
theorem isVariable_of_mem_names (parsed : parse source = .ok e) (mem : name ∈ e.names) :
    Name.isVariable name.toList = true := by
  rcases bind_eq_ok_iff.mp parsed with ⟨lexemes, scanned, spelled⟩
  rcases exists_tiles_of_scanFrom scanned with ⟨lead, rest, slices, gaps, -, -, tiles⟩
  rcases tiles.exists_body with ⟨body, last, rfl, isStop, writes⟩
  rcases not_mem_of_writes writes with ⟨-, noStop⟩
  rcases derives_of_ofLexemes noStop isStop spelled with ⟨height, derivation⟩
  have mentions := derivation.mentioned_append []
  rw [List.append_nil, show mentioned false [] = [] from rfl, List.append_nil] at mentions
  rw [Name.isVariable, String.ofList_toList, derivation.isReserved_eq_false name mem]
  have isToken := mem_of_mem_mentioned (mentions ▸ mem)
  rcases List.forall₂_iff_get.mp writes with ⟨sameLength, written⟩
  rcases List.mem_iff_getElem.mp isToken with ⟨place, inside, found⟩
  have writesName := written place (by omega) inside
  simp only [List.get_eq_getElem, found] at writesName
  rw [writesName.isName]
  rfl

/-- A text is parsed as the variable of its own name exactly when it can name a variable. -/
theorem parse_eq_var_iff : parse name = .ok (.var name) ↔ Name.isVariable name.toList = true := by
  constructor
  · intro parsed
    exact isVariable_of_mem_names parsed (List.mem_singleton.mpr rfl)
  · intro isVariable
    exact (parse_text (e := .var name) isVariable).2 (Nat.zero_le 60)

/-! ## Members -/

/-- Whether an expression is a variable, an access to a member of something, or a call. -/
def isAccess : Expr → Bool
  | var _ | member _ _ | index _ _ | call _ _ => true
  | _ => false

/-- An access that is derived as an operation is a chain. -/
theorem Derives.chain_of_isAccess (derivation : Derives phrase height tokens e)
    (isAccess : e.isAccess = true) (isOperation : phrase = .operation tightness) :
    Derives (.chain true) height tokens e := by
  induction derivation generalizing tightness with
  | operand derivation _ =>
      cases derivation with
      | chain derivation => exact derivation
      | construction derivation => cases derivation <;> cases isAccess
  | tighter _ _ ih => exact ih isAccess rfl
  | unary _ _ _ | binary _ _ _ _ _ => cases isAccess
  | _ => cases isOperation

theorem Derives.exists_chain_of_isAccess (derivation : Derives .conditional height tokens e)
    (isAccess : e.isAccess = true) :
    ∃ inner, height = inner + 1 ∧ Derives (.chain true) inner tokens e := by
  cases derivation with
  | test derivation => exact ⟨_, rfl, derivation.chain_of_isAccess isAccess rfl⟩
  | conditional _ _ _ => cases isAccess

/-- The last token of an access goes on only with characters of names. -/
theorem Derives.exists_getLast_of_isAccess {calls : Bool}
    (derivation : Derives (.chain calls) height tokens e) (isAccess : e.isAccess = true) :
    ∃ token, tokens.getLast? = some token ∧
      ∀ c, Name.isContinue c = false → goesOn token c = false := by
  cases derivation with
  | primary derivation =>
      cases derivation with
      | atom atom =>
          cases atom with
          | var _ => exact ⟨_, rfl, fun c free => free⟩
          | _ => cases isAccess
      | parentheses _ => exact ⟨.symbol .rightParen, List.getLast?_concat, fun c _ => rfl⟩
      | array _ => cases isAccess
  | newWith _ _ => cases isAccess
  | @member _ _ _ _ token _ _ isProperty =>
      refine ⟨token, by simp, fun c free => ?_⟩
      cases isProperty <;> exact free
  | index _ _ => exact ⟨.symbol .rightBracket, List.getLast?_concat, fun c _ => rfl⟩
  | call _ _ => exact ⟨.symbol .rightParen, List.getLast?_concat, fun c _ => rfl⟩

/-- A text that is parsed as an access is a print of it, whatever white space it has. -/
theorem prints_of_parse (parsed : parse source = .ok e) (isAccess : e.isAccess = true) :
    Prints (.chain true) 127 Name.isContinue source.toList e := by
  rcases bind_eq_ok_iff.mp parsed with ⟨lexemes, scanned, -⟩
  rcases exists_of_scanFrom scanned with ⟨body, last, rfl, isStop, -⟩
  rcases parse_iff_derives scanned with ⟨tokens, spelled, parse_iff, -, -⟩
  obtain rfl : tokensOf body = tokens := by
    rw [tokensOf, List.map_append, List.map_singleton, isStop] at spelled
    exact List.append_cancel_right spelled
  rcases (parse_iff e).mp parsed with ⟨height, fits, derivation⟩
  rcases derivation.exists_chain_of_isAccess isAccess with ⟨inner, rfl, chain⟩
  rcases chain.exists_getLast_of_isAccess isAccess with ⟨token, isLast, blocked⟩
  refine ⟨inner, _, Nat.le_of_succ_le_succ fits, chain, fun rest stops => ?_⟩
  apply scans_append_of_scanFrom scanned
  intro other mem
  rw [isLast, Option.mem_some_iff] at mem
  subst mem
  exact fun c mem => blocked c (stops c mem)

/-- A point and a name behind an access make up the access to that member, reserved or not. -/
theorem parse_member {property : String} (parsed : parse source = .ok e)
    (isAccess : e.isAccess = true) (isName : Name.isName property.toList = true) :
    parse (source ++ "." ++ property) = .ok (.member e property) := by
  have prints := ((prints_of_parse parsed isAccess).member isName).operation.expression
  have text_eq : (source ++ "." ++ property).toList = source.toList ++ '.' :: property.toList := by
    simp
  rw [← text_eq] at prints
  exact (parse_of_prints prints).2 (Nat.le_refl levelLimit)

end Stencil.Expr
