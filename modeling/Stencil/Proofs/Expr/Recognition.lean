import Stencil.Proofs.Expr.Completeness
import Stencil.Proofs.Expr.Soundness

/-!
# Parsing recognises the grammar

A text spells an expression exactly when the grammar derives its tokens and no more levels are open
at once than are allowed.  No sequence of tokens spells two expressions.
-/

namespace Stencil.Expr

/-! ## Scanned tokens -/

theorem ne_stop_of_scanNumber {s rest : List Char} {token : Token}
    (scanned : scanNumber s = .ok (token, rest)) : token ≠ .stop := by
  rintro rfl
  unfold scanNumber at scanned
  split at scanned
  · simp only [scanHex] at scanned
    split at scanned <;> cases scanned
  · simp only [scanDecimal] at scanned
    split at scanned
    · cases scanned
    · split at scanned <;> cases scanned

theorem ofWord_ne_stop (word : String) : Token.ofWord word ≠ .stop := by
  rw [Token.ofWord]
  split <;> simp

/-- The scanner puts no end between the tokens. -/
theorem ne_stop_of_scanToken {c : Char} {s rest : List Char} {token : Token}
    (scanned : scanToken c s = .ok (token, rest)) : token ≠ .stop := by
  unfold scanToken at scanned
  split at scanned
  · exact ne_stop_of_scanNumber scanned
  split at scanned
  · rintro rfl
    unfold scanString at scanned
    split at scanned <;> cases scanned
  split at scanned
  · rintro rfl
    simp only [scanDirective] at scanned
    split at scanned <;> cases scanned
  split at scanned
  · cases scanned
    exact ofWord_ne_stop _
  · rintro rfl
    unfold scanSymbol at scanned
    split at scanned <;> cases scanned

/-- A scanned text is a sequence of tokens and one end behind them. -/
theorem exists_of_scanFrom {offset : Nat} {s : List Char} {lexemes : List Lexeme}
    (scanned : scanFrom offset s = .ok lexemes) :
    ∃ body last, lexemes = body ++ [last] ∧ last.item = .stop ∧ .stop ∉ tokensOf body := by
  induction length : s.length using Nat.strongRecOn generalizing offset s lexemes with
  | _ n ih =>
      rw [scanFrom] at scanned
      split at scanned
      · cases scanned
        exact ⟨[], _, rfl, rfl, by simp⟩
      · rename_i c more trimmed
        split at scanned
        · cases scanned
        · rename_i token rest scannedToken
          rcases bind_eq_ok_iff.mp scanned with ⟨lexemes, scannedRest, done⟩
          cases done
          have shorter : rest.length < n := by
            have token_le := length_le_of_scanToken scannedToken
            have trim_le := (List.dropWhile_sublist Text.isSpace (l := s)).length_le
            rw [← Text.trimStart, trimmed, List.length_cons] at trim_le
            omega
          rcases ih _ shorter scannedRest rfl with ⟨body, last, rfl, isStop, noStop⟩
          refine ⟨⟨_, token⟩ :: body, last, rfl, isStop, ?_⟩
          simp only [List.map_cons, List.mem_cons, not_or]
          exact ⟨(ne_stop_of_scanToken scannedToken).symm, noStop⟩

/-! ## Derived tokens -/

theorem IsAtom.ne_stop {token : Token} {e : Expr} (atom : IsAtom token e) : token ≠ .stop := by
  rintro rfl
  cases atom

theorem IsProperty.ne_stop {token : Token} {name : String} (property : IsProperty token name) :
    token ≠ .stop := by
  rintro rfl
  cases property

theorem UnaryOp.token_ne_stop (op : UnaryOp) : op.token ≠ .stop := by
  cases op <;> simp [UnaryOp.token]

theorem BinaryOp.token_ne_stop (op : BinaryOp) : op.token ≠ .stop := by
  cases op <;> simp [BinaryOp.token]

/-- No phrase reaches over the end. -/
theorem Derives.stop_not_mem {phrase : Phrase} {height : Nat} {tokens : List Token} {e : Expr}
    (derivation : Derives phrase height tokens e) : .stop ∉ tokens := by
  induction derivation with
  | atom atom => simpa using atom.ne_stop.symm
  | member _ property ih => simpa [ih] using property.ne_stop.symm
  | unary op _ ih => simpa [ih] using (UnaryOp.token_ne_stop op).symm
  | binary op _ _ leftIh rightIh => simpa [leftIh, rightIh] using (BinaryOp.token_ne_stop op).symm
  | _ => simp_all

/-- What a derivation takes of a scanned text up to its end is all of it. -/
theorem eq_of_append_eq {body pre rest : List Lexeme} {last : Lexeme}
    (same : body ++ [last] = pre ++ rest) (noStop : .stop ∉ tokensOf body)
    (isStop : last.item = .stop) (preNoStop : .stop ∉ tokensOf pre)
    (atEnd : (current rest).item = .stop) : pre = body := by
  rcases List.append_eq_append_iff.mp same with ⟨skipped, rfl, back⟩ | ⟨skipped, rfl, back⟩
  · cases skipped with
    | nil => simp
    | cons t more =>
        rcases List.cons.inj back with ⟨rfl, _⟩
        exact absurd (by simp [isStop]) preNoStop
  · cases skipped with
    | nil => simp
    | cons t more =>
        rw [back, List.cons_append, current] at atEnd
        exact absurd (by simp [atEnd]) noStop

/-! ## Whole texts -/

/-- A whole text is a conditional and the end behind it. -/
theorem ofLexemes_eq_ok_iff {ts : List Lexeme} {e : Expr} :
    ofLexemes ts = .ok e ↔
      ∃ rest, run (level levelLimit).nested ts = .ok (e, rest) ∧ (current rest).item = .stop := by
  rw [ofLexemes, run]
  cases (level levelLimit).nested ts with
  | error fault =>
      constructor
      · intro parsed
        cases parsed
      · rintro ⟨rest, read, _⟩
        cases read
  | ok parsed =>
      rw [ok_bind]
      split
      · rename_i atEnd
        constructor
        · intro done
          cases done
          exact ⟨parsed.rest, rfl, atEnd⟩
        · rintro ⟨rest, read, _⟩
          cases read
          rfl
      · rename_i notEnd
        constructor
        · intro parsed
          cases parsed
        · rintro ⟨rest, read, atEnd⟩
          cases read
          exact absurd atEnd notEnd

theorem exists_of_run_eq_error {ts : List Lexeme} {fault : Fault}
    (read : run (level levelLimit).nested ts = .error fault) :
    ∃ offset, ofLexemes ts = .error ⟨offset, fault⟩ := by
  rw [ofLexemes]
  rw [run] at read
  cases nested : (level levelLimit).nested ts with
  | error located =>
      rw [nested] at read
      cases read
      exact ⟨located.offset, rfl⟩
  | ok parsed =>
      rw [nested] at read
      cases read

theorem ends_of_isStop {last : Lexeme} (isStop : last.item = .stop) : Ends 1 [last] := by
  apply ends_cons
  rw [isStop]
  decide

/-- A derived text is parsed if it has few enough levels, and else refused for having too many. -/
theorem ofLexemes_of_derives {body : List Lexeme} {last : Lexeme} {height : Nat} {e : Expr}
    (isStop : last.item = .stop) (derivation : Derives .conditional height (tokensOf body) e) :
    (height ≤ levelLimit ∧ ofLexemes (body ++ [last]) = .ok e) ∨
      (levelLimit < height ∧
        ∃ offset, ofLexemes (body ++ [last]) = .error ⟨offset, .tooDeep⟩) := by
  have read := complete_of_derives derivation levelLimit body [last] rfl (ends_of_isStop isStop)
  by_cases fits : height ≤ levelLimit
  · rw [limited, if_pos fits] at read
    exact .inl ⟨fits, ofLexemes_eq_ok_iff.mpr ⟨[last], read, isStop⟩⟩
  · rw [limited, if_neg fits] at read
    exact .inr ⟨Nat.lt_of_not_le fits, exists_of_run_eq_error read⟩

theorem derives_of_ofLexemes {body : List Lexeme} {last : Lexeme} {e : Expr}
    (noStop : .stop ∉ tokensOf body) (isStop : last.item = .stop)
    (parsed : ofLexemes (body ++ [last]) = .ok e) :
    ∃ height, Derives .conditional height (tokensOf body) e := by
  rcases ofLexemes_eq_ok_iff.mp parsed with ⟨rest, read, atEnd⟩
  rcases (sound_level levelLimit).nested read with ⟨pre, height, _, same, rfl, derivation⟩
  rw [eq_of_append_eq same noStop isStop derivation.stop_not_mem atEnd] at derivation
  exact ⟨height, derivation⟩

/-- With the levels of one derivation, the other one is found as well. -/
theorem Derives.le_and_eq {height other : Nat} {tokens : List Token} {e f : Expr}
    (first : Derives .conditional height tokens e)
    (second : Derives .conditional other tokens f) : other ≤ height ∧ e = f := by
  -- Parsing does not depend on places, so any will do.
  have spelled : tokensOf (tokens.map fun token => ⟨0, token⟩) = tokens := by
    simp [Function.comp_def]
  have ends : Ends 1 [] := by
    intro t mem
    cases mem
  have readFirst := complete_of_derives first height _ [] spelled ends
  have readSecond := complete_of_derives second height _ [] spelled ends
  rw [readFirst, limited, if_pos (Nat.le_refl height), limited] at readSecond
  split at readSecond
  · rename_i le
    cases readSecond
    exact ⟨le, rfl⟩
  · cases readSecond

/-- A sequence of tokens has one height and spells one expression. -/
theorem Derives.unique {height other : Nat} {tokens : List Token} {e f : Expr}
    (first : Derives .conditional height tokens e)
    (second : Derives .conditional other tokens f) : height = other ∧ e = f := by
  rcases first.le_and_eq second with ⟨le, same⟩
  exact ⟨Nat.le_antisymm (second.le_and_eq first).1 le, same⟩

/-- A text spells an expression exactly when the grammar derives its tokens with at most 128 levels
open at once; a text with a higher derivation is refused for its height; and derivations of the same
tokens have the same height and the same expression. -/
theorem parse_iff_derives {source : String} {lexemes : List Lexeme}
    (scanned : scan source = .ok lexemes) :
    ∃ tokens, tokensOf lexemes = tokens ++ [.stop] ∧
      (∀ e, parse source = .ok e ↔ ∃ height, height ≤ 128 ∧ Derives .conditional height tokens e) ∧
      (∀ height e, Derives .conditional height tokens e →
        ((∃ fault, parse source = .error fault ∧
          fault.item.message = "Expression nested too deeply") ↔ 128 < height)) ∧
      (∀ height other e f, Derives .conditional height tokens e →
        Derives .conditional other tokens f → height = other ∧ e = f) := by
  rcases exists_of_scanFrom scanned with ⟨body, last, rfl, isStop, noStop⟩
  have parse_eq : parse source = ofLexemes (body ++ [last]) := by
    rw [parse, scanned, ok_bind]
  refine ⟨tokensOf body, by simp [isStop], fun e => ?_, fun height e derivation => ?_,
    fun height other e f => Derives.unique⟩
  · rw [parse_eq]
    constructor
    · intro parsed
      rcases derives_of_ofLexemes noStop isStop parsed with ⟨height, derivation⟩
      rcases ofLexemes_of_derives isStop derivation with ⟨fits, _⟩ | ⟨_, offset, refused⟩
      · exact ⟨height, fits, derivation⟩
      · rw [refused] at parsed
        cases parsed
    · rintro ⟨height, fits, derivation⟩
      rcases ofLexemes_of_derives isStop derivation with ⟨_, parsed⟩ | ⟨tooHigh, _⟩
      · exact parsed
      · exact absurd fits (Nat.not_le_of_lt tooHigh)
  · rw [parse_eq]
    rcases ofLexemes_of_derives isStop derivation with ⟨fits, parsed⟩ | ⟨tooHigh, offset, refused⟩
    · constructor
      · rintro ⟨fault, refused, _⟩
        rw [parsed] at refused
        cases refused
      · intro tooHigh
        exact absurd fits (Nat.not_le_of_lt tooHigh)
    · constructor
      · intro _
        exact tooHigh
      · intro _
        exact ⟨_, refused, rfl⟩

/-- Differences associate to the left, negation binds tighter, and a reserved word names a
property. -/
theorem parse_difference :
    scan "!a.if-b-c" = .ok [⟨0, .symbol .not⟩, ⟨1, .name "a"⟩, ⟨2, .symbol .dot⟩, ⟨3, .name "if"⟩,
        ⟨5, .symbol .minus⟩, ⟨6, .name "b"⟩, ⟨7, .symbol .minus⟩, ⟨8, .name "c"⟩, ⟨9, .stop⟩] ∧
      parse "!a.if-b-c" = .ok (.binary .sub (.binary .sub
        (.unary .not (.member (.var "a") "if")) (.var "b")) (.var "c")) := by
  have scanned : scan "!a.if-b-c" = .ok [⟨0, .symbol .not⟩, ⟨1, .name "a"⟩, ⟨2, .symbol .dot⟩,
      ⟨3, .name "if"⟩, ⟨5, .symbol .minus⟩, ⟨6, .name "b"⟩, ⟨7, .symbol .minus⟩, ⟨8, .name "c"⟩,
      ⟨9, .stop⟩] := by
    cbv
  have variableOperand (name : String) (free : Name.isReserved name = false) :
      Derives (.operation 5) 0 [.name name] (.var name) :=
    .tighter (by decide) (.operand (.chain (.primary (.atom (.var free)))))
  have negation : Derives (.operation 4) 1 [.symbol .not, .name "a", .symbol .dot, .name "if"]
      (.unary .not (.member (.var "a") "if")) :=
    .tighter (by decide) (.tighter (by decide) (.unary .not (.operand (.chain
      (.member (.primary (.atom (.var (by decide)))) (.name "if"))))))
  have inner := Derives.binary .sub negation (variableOperand "b" (by decide))
  have outer := Derives.binary .sub inner (variableOperand "c" (by decide))
  have disjunction := Derives.tighter (by decide) (.tighter (by decide) (.tighter (by decide)
    (.tighter (by decide) outer)))
  rcases parse_iff_derives scanned with ⟨tokens, spelled, parse_iff, _⟩
  have tokens_eq : tokens = [.symbol .not, .name "a", .symbol .dot, .name "if", .symbol .minus,
      .name "b", .symbol .minus, .name "c"] :=
    List.append_cancel_right spelled.symm
  rw [tokens_eq] at parse_iff
  exact ⟨scanned, (parse_iff _).mpr ⟨2, by decide, .test disjunction⟩⟩

end Stencil.Expr
