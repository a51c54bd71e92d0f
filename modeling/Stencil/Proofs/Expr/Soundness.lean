import Stencil.Proofs.Expr.Tokens

/-!
# Parsers read only what the grammar derives

What a parser takes off the front is a phrase of its kind, and the expression that it gives is the
one that the phrase spells.  A parser that repeats a step keeps this as an invariant; a construction
without arguments needs in addition that no step can follow it.
-/

namespace Stencil.Expr

/-- A phrase stands in front of what is left. -/
def Reads (phrase : Phrase) (ts : List Lexeme) (e : Expr) (rest : List Lexeme) : Prop :=
  ∃ pre height tokens, ts = pre ++ rest ∧ tokensOf pre = tokens ∧
    Derives phrase height tokens e

/-- What stands in front of the steps of a chain: a chain, or a construction without arguments that
no step follows. -/
def Begins (calls : Bool) (ts : List Lexeme) (e : Expr) (rest : List Lexeme) : Prop :=
  Reads (.chain calls) ts e rest ∨ Reads .construction ts e rest ∧ Ends 8 rest

/-- The parsers of a level read only what the grammar derives. -/
structure Sound (l : Level) : Prop where
  nested : ∀ {ts e rest}, run l.nested ts = .ok (e, rest) → Reads .conditional ts e rest
  operand : ∀ {ts e rest}, run l.operand ts = .ok (e, rest) → Reads (.operation 6) ts e rest
  construction : ∀ {ts e rest} {mark : Lexeme} (calls : Bool), mark.item = .keyword .new →
    run l.construction ts = .ok (e, rest) → Begins calls (mark :: ts) e rest
  items : ∀ {ts items rest}, run l.items ts = .ok (items, rest) →
    ∃ closing, closing.item = .symbol .rightBracket ∧
      Reads .items ts (.array items) (closing :: rest)

/-! ## Combinators -/

section

variable {α : Type} {ts rest : List Lexeme} {a b : α}

theorem length_lt_of_runStep {step : Step α}
    (applied : runStep step a ts = .ok (some (b, rest))) : rest.length < ts.length := by
  rw [runStep] at applied
  split at applied
  · cases applied
  · rename_i parsed _
    cases applied
    exact parsed.rest_lt
  · cases applied

/-- What every step keeps holds at the end, and no step applies there. -/
theorem runExtend_invariant {step : Step α} {Holds : α → List Lexeme → Prop}
    (keeps : ∀ a ts b rest, Holds a ts → runStep step a ts = .ok (some (b, rest)) → Holds b rest)
    (start : Holds a ts) (read : runExtend step a ts = .ok (b, rest)) :
    Holds b rest ∧ runStep step b rest = .ok none := by
  induction length : ts.length using Nat.strongRecOn generalizing a ts with
  | _ n ih =>
      rw [runExtend_eq] at read
      rcases bind_eq_ok_iff.mp read with ⟨applied, stepped, read⟩
      cases applied with
      | none =>
          cases read
          exact ⟨start, stepped⟩
      | some next =>
          have shorter := length ▸ length_lt_of_runStep stepped
          exact ih _ shorter (keeps a ts _ _ start stepped) read rfl

theorem run_expect_eq_ok_iff {symbol : Symbol} {taken : Unit} :
    run (expect symbol) ts = .ok (taken, rest) ↔ ∃ t, ts = t :: rest ∧ t.item = .symbol symbol := by
  rw [run_expect, ← afterSymbol?_eq_some_iff]
  cases afterSymbol? symbol ts with
  | none => simp
  | some more => simp

end

variable {l : Level} {ts rest : List Lexeme} {e : Expr}

/-- A list is read up to its closing symbol. -/
theorem Sound.reads_of_run_listUntil (sound : Sound l) {close : Symbol} {items : List Expr}
    (read : run (listUntil close l.nested) ts = .ok (items, rest)) :
    ∃ closing, closing.item = .symbol close ∧
      Reads .items ts (.array items) (closing :: rest) := by
  induction length : ts.length using Nat.strongRecOn generalizing ts items with
  | _ n ih =>
      rw [run_listUntil] at read
      split at read
      · rename_i more closes
        rcases afterSymbol?_eq_some_iff.mp closes with ⟨closing, rfl, isClosing⟩
        cases read
        exact ⟨closing, isClosing, [], 0, [], rfl, rfl, .noItems⟩
      · rcases bind_eq_ok_iff.mp read with ⟨⟨first, more⟩, readFirst, readRest⟩
        rcases sound.nested readFirst with ⟨pre, _, _, rfl, spelled, derivation⟩
        split at readRest
        · rcases bind_eq_ok_iff.mp readRest with ⟨_, closed, done⟩
          rcases run_expect_eq_ok_iff.mp closed with ⟨closing, rfl, isClosing⟩
          cases done
          exact ⟨closing, isClosing, pre, _, _, rfl, spelled, .lastItem derivation⟩
        · rename_i others foundComma
          rcases afterSymbol?_eq_some_iff.mp foundComma with ⟨comma, rfl, isComma⟩
          rcases bind_eq_ok_iff.mp readRest with ⟨⟨items, last⟩, readOthers, done⟩
          cases done
          have shorter : others.length < n := by
            rw [← length]
            simp only [List.length_append, List.length_cons]
            omega
          rcases ih _ shorter readOthers rfl with
            ⟨closing, isClosing, list, _, _, rfl, spelledList, listDerivation⟩
          refine ⟨closing, isClosing, pre ++ comma :: list, _, _, ?_, ?_,
            .moreItems derivation listDerivation⟩
          · simp
          · simp [spelled, isComma, spelledList]

/-! ## Primaries and chains -/

theorem Sound.reads_of_run_primary (sound : Sound l) (read : run (primary l) ts = .ok (e, rest)) :
    Reads .primary ts e rest := by
  rw [run_primary] at read
  split at read
  · rename_i inside found
    rcases afterSymbol?_eq_some_iff.mp found with ⟨opening, rfl, isOpening⟩
    rcases bind_eq_ok_iff.mp read with ⟨⟨inner, more⟩, readInner, read⟩
    rcases bind_eq_ok_iff.mp read with ⟨_, closed, done⟩
    rcases run_expect_eq_ok_iff.mp closed with ⟨closing, rfl, isClosing⟩
    cases done
    rcases sound.nested readInner with ⟨pre, _, _, rfl, spelled, derivation⟩
    refine ⟨opening :: pre ++ [closing], _, _, ?_, ?_, .parentheses derivation⟩
    · simp
    · simp [isOpening, spelled, isClosing]
  · split at read
    · rename_i inside found
      rcases afterSymbol?_eq_some_iff.mp found with ⟨opening, rfl, isOpening⟩
      rcases bind_eq_ok_iff.mp read with ⟨⟨items, more⟩, readItems, done⟩
      cases done
      rcases sound.items readItems with ⟨closing, isClosing, pre, _, _, rfl, spelled, derivation⟩
      refine ⟨opening :: pre ++ [closing], _, _, ?_, ?_, .array derivation⟩
      · simp
      · simp [isOpening, spelled, isClosing]
    · split at read
      · rename_i found
        cases read
        rcases after?_eq_some_iff.mp found with ⟨t, rfl, accepted⟩
        exact ⟨[t], _, _, rfl, rfl, .atom (atom?_eq_some_iff.mp accepted)⟩
      · cases read

theorem Sound.begins_of_run_base (sound : Sound l) (calls : Bool)
    (read : run (base l) ts = .ok (e, rest)) : Begins calls ts e rest := by
  rw [run_base] at read
  split at read
  · rename_i found
    rcases after?_eq_some_iff.mp found with ⟨mark, rfl, accepted⟩
    exact sound.construction calls (isNew?_eq_some_iff.mp accepted) read
  · rcases sound.reads_of_run_primary read with ⟨pre, _, _, same, spelled, derivation⟩
    exact .inl ⟨pre, _, _, same, spelled, .primary derivation⟩

variable {whole : List Lexeme} {calls : Bool} {object : Expr}

/-- Access to a member is one more step of a chain. -/
theorem Sound.reads_of_accessStep (sound : Sound l) (front : Reads (.chain calls) whole object ts)
    (applied : runStep (accessStep l) object ts = .ok (some (e, rest))) :
    Reads (.chain calls) whole e rest := by
  rcases front with ⟨pre, _, _, rfl, spelled, derivation⟩
  rw [runStep_accessStep] at applied
  split at applied
  · rename_i behind found
    rcases afterSymbol?_eq_some_iff.mp found with ⟨dot, rfl, isDot⟩
    split at applied
    · rename_i named
      rcases after?_eq_some_iff.mp named with ⟨name, rfl, accepted⟩
      cases applied
      refine ⟨pre ++ [dot, name], _, _, ?_, ?_,
        .member derivation (propertyName?_eq_some_iff.mp accepted)⟩
      · simp
      · simp [spelled, isDot]
    · cases applied
  · split at applied
    · rename_i inside found
      rcases afterSymbol?_eq_some_iff.mp found with ⟨opening, rfl, isOpening⟩
      rcases bind_eq_ok_iff.mp applied with ⟨⟨key, more⟩, readKey, applied⟩
      rcases bind_eq_ok_iff.mp applied with ⟨_, closed, done⟩
      rcases run_expect_eq_ok_iff.mp closed with ⟨closing, rfl, isClosing⟩
      cases done
      rcases sound.nested readKey with ⟨inner, _, _, rfl, spelledInner, keyDerivation⟩
      refine ⟨pre ++ opening :: inner ++ [closing], _, _, ?_, ?_, .index derivation keyDerivation⟩
      · simp
      · simp [spelled, isOpening, spelledInner, isClosing]
    · cases applied

/-- A call is one more step of a chain with calls. -/
theorem Sound.reads_of_chainStep (sound : Sound l) (front : Reads (.chain calls) whole object ts)
    (applied : runStep (chainStep l calls) object ts = .ok (some (e, rest))) :
    Reads (.chain calls) whole e rest := by
  cases calls with
  | false => exact sound.reads_of_accessStep front applied
  | true =>
      rw [chainStep, runStep_postfixStep] at applied
      split at applied
      · rename_i inside found
        rcases afterSymbol?_eq_some_iff.mp found with ⟨opening, rfl, isOpening⟩
        rcases bind_eq_ok_iff.mp applied with ⟨⟨args, more⟩, readArgs, done⟩
        cases done
        rcases front with ⟨pre, _, _, rfl, spelled, derivation⟩
        rcases sound.reads_of_run_listUntil readArgs with
          ⟨closing, isClosing, inner, _, _, rfl, spelledInner, argsDerivation⟩
        refine ⟨pre ++ opening :: inner ++ [closing], _, _, ?_, ?_,
          .call derivation argsDerivation⟩
        · simp
        · simp [spelled, isOpening, spelledInner, isClosing]
      · exact sound.reads_of_accessStep front applied

/-- Repeated steps read a chain, or stop at once behind a construction without arguments. -/
theorem Sound.begins_of_run_extending (sound : Sound l) (calls : Bool)
    (read : run (extending (base l) (chainStep l calls)) ts = .ok (e, rest)) :
    Begins calls ts e rest ∧ runStep (chainStep l calls) e rest = .ok none := by
  rw [run_extending] at read
  rcases bind_eq_ok_iff.mp read with ⟨⟨first, more⟩, readFirst, read⟩
  have start := sound.begins_of_run_base calls readFirst
  -- Only chains grow: no step applies behind a construction without arguments.
  refine runExtend_invariant ?_ start read
  rintro object middle next last (front | ⟨_, ends⟩) applied
  · exact .inl (sound.reads_of_chainStep front applied)
  · rw [runStep_chainStep_of_ends l calls object ends] at applied
    cases applied

theorem grip_lt_of_ne {token : Token} (notDot : token ≠ .symbol .dot)
    (notBracket : token ≠ .symbol .leftBracket) (notParen : token ≠ .symbol .leftParen) :
    grip token < 8 := by
  unfold grip
  split <;> simp_all

/-- Where neither access nor a call goes on, a chain ends. -/
theorem ends_of_stops (noCall : afterSymbol? .leftParen rest = none)
    (stops : runStep (accessStep l) e rest = .ok none) : Ends 8 rest := by
  rw [runStep_accessStep] at stops
  split at stops
  · split at stops <;> cases stops
  · rename_i noDot
    split at stops
    · rcases bind_eq_ok_iff.mp stops with ⟨_, _, stops⟩
      rcases bind_eq_ok_iff.mp stops with ⟨_, _, stops⟩
      cases stops
    · rename_i noBracket
      intro t mem
      exact grip_lt_of_ne (afterSymbol?_eq_none_iff.mp noDot t mem)
        (afterSymbol?_eq_none_iff.mp noBracket t mem) (afterSymbol?_eq_none_iff.mp noCall t mem)

theorem Sound.begins_of_run_construction (sound : Sound l) (calls : Bool) {mark : Lexeme}
    (isMark : mark.item = .keyword .new) (read : run (Expr.construction l) ts = .ok (e, rest)) :
    Begins calls (mark :: ts) e rest := by
  rw [run_construction] at read
  rcases bind_eq_ok_iff.mp read with ⟨⟨target, more⟩, readTarget, read⟩
  rcases sound.begins_of_run_extending false readTarget with ⟨begins, stops⟩
  split at read
  · rename_i inside found
    rcases afterSymbol?_eq_some_iff.mp found with ⟨opening, rfl, isOpening⟩
    rcases bind_eq_ok_iff.mp read with ⟨⟨args, last⟩, readArgs, done⟩
    cases done
    rcases begins with ⟨pre, _, _, rfl, spelled, derivation⟩ | ⟨_, ends⟩
    · rcases sound.reads_of_run_listUntil readArgs with
        ⟨closing, isClosing, inner, _, _, rfl, spelledInner, argsDerivation⟩
      refine .inl ⟨mark :: pre ++ opening :: inner ++ [closing], _, _, ?_, ?_,
        .newWith derivation argsDerivation⟩
      · simp
      · simp [isMark, spelled, isOpening, spelledInner, isClosing]
    · have less := ends opening rfl
      rw [isOpening] at less
      exact absurd less (by decide)
  · rename_i noCall
    cases read
    have ends := ends_of_stops noCall stops
    rcases begins with ⟨pre, _, _, rfl, spelled, derivation⟩ |
      ⟨⟨pre, _, _, rfl, spelled, derivation⟩, _⟩
    · exact .inr ⟨⟨mark :: pre, _, _, rfl, by simp [isMark, spelled], .newChain derivation⟩, ends⟩
    · exact .inr ⟨⟨mark :: pre, _, _, rfl, by simp [isMark, spelled],
        .newConstruction derivation⟩, ends⟩

/-! ## Operations and conditionals -/

theorem Sound.reads_of_run_unaries (sound : Sound l) (read : run (unaries l) ts = .ok (e, rest)) :
    Reads (.operation 6) ts e rest := by
  rw [run_unaries] at read
  split at read
  · rename_i op more found
    rcases after?_eq_some_iff.mp found with ⟨mark, rfl, accepted⟩
    rcases bind_eq_ok_iff.mp read with ⟨⟨operand, last⟩, readOperand, done⟩
    cases done
    rcases sound.operand readOperand with ⟨pre, _, _, rfl, spelled, derivation⟩
    refine ⟨mark :: pre, _, _, rfl, ?_, .unary op derivation⟩
    simp [UnaryOp.ofToken?_eq_some_iff.mp accepted, spelled]
  · rcases (sound.begins_of_run_extending true read).1 with
      ⟨pre, _, _, same, spelled, derivation⟩ | ⟨⟨pre, _, _, same, spelled, derivation⟩, _⟩
    · exact ⟨pre, _, _, same, spelled, .operand (.chain derivation)⟩
    · exact ⟨pre, _, _, same, spelled, .operand (.construction derivation)⟩

/-- The induction is on the number of rows that are tighter. -/
theorem Sound.reads_of_run_operations (sound : Sound l) (rows : Nat) {tightness : Nat}
    (left : tightness + rows = 6) (read : run (operations l tightness) ts = .ok (e, rest)) :
    Reads (.operation tightness) ts e rest := by
  induction rows generalizing tightness ts e rest with
  | zero =>
      cases left
      exact sound.reads_of_run_unaries read
  | succ fewer ih =>
      have loose : tightness < 6 := by omega
      have leftTighter : tightness + 1 + fewer = 6 := by omega
      rw [operations_of_lt l loose, run_extending] at read
      rcases bind_eq_ok_iff.mp read with ⟨⟨first, more⟩, readFirst, read⟩
      have start : Reads (.operation tightness) ts first more := by
        rcases ih leftTighter readFirst with ⟨pre, _, _, same, spelled, derivation⟩
        exact ⟨pre, _, _, same, spelled, .tighter loose derivation⟩
      apply (runExtend_invariant _ start read).1
      rintro object middle next last ⟨pre, _, _, rfl, spelled, derivation⟩ applied
      rw [operationStep, runStep_binaryStep] at applied
      split at applied
      · rename_i op operand found
        rcases after?_eq_some_iff.mp found with ⟨mark, rfl, accepted⟩
        rcases operatorOf?_row_eq_some_iff.mp accepted with ⟨isOp, rfl⟩
        rcases bind_eq_ok_iff.mp applied with ⟨⟨right, behind⟩, readRight, done⟩
        cases done
        rcases ih leftTighter readRight with ⟨other, _, _, rfl, spelledOther, rightDerivation⟩
        refine ⟨pre ++ mark :: other, _, _, ?_, ?_, .binary op derivation rightDerivation⟩
        · simp
        · simp [spelled, isOp, spelledOther]
      · cases applied

theorem Sound.reads_of_run_conditionals (sound : Sound l)
    (read : run (conditionals l) ts = .ok (e, rest)) : Reads .conditional ts e rest := by
  rw [run_conditionals] at read
  rcases bind_eq_ok_iff.mp read with ⟨⟨test, more⟩, readTest, readRest⟩
  rcases sound.reads_of_run_operations 6 rfl readTest with ⟨pre, _, _, rfl, spelled, derivation⟩
  split at readRest
  · rename_i inside found
    rcases afterSymbol?_eq_some_iff.mp found with ⟨mark, rfl, isMark⟩
    rcases bind_eq_ok_iff.mp readRest with ⟨⟨consequent, between⟩, readThen, readRest⟩
    rcases bind_eq_ok_iff.mp readRest with ⟨⟨_, behind⟩, readColon, readRest⟩
    rcases bind_eq_ok_iff.mp readRest with ⟨⟨alternate, last⟩, readElse, done⟩
    rcases run_expect_eq_ok_iff.mp readColon with ⟨colon, rfl, isColon⟩
    cases done
    rcases sound.nested readThen with ⟨yes, _, _, rfl, spelledYes, thenDerivation⟩
    rcases sound.nested readElse with ⟨no, _, _, rfl, spelledNo, elseDerivation⟩
    refine ⟨pre ++ mark :: yes ++ colon :: no, _, _, ?_, ?_,
      .conditional derivation thenDerivation elseDerivation⟩
    · simp
    · simp [spelled, isMark, spelledYes, isColon, spelledNo]
  · cases readRest
    exact ⟨pre, _, _, rfl, spelled, .test derivation⟩

/-- Parsers read only phrases that the grammar derives, with any number of levels. -/
theorem sound_level (levels : Nat) : Sound (level levels) := by
  induction levels with
  | zero =>
      constructor
      · intro ts e rest read
        cases read
      · intro ts e rest read
        cases read
      · intro ts e rest mark calls isMark read
        cases read
      · intro ts items rest read
        cases read
  | succ fewer ih =>
      constructor
      · intro ts e rest read
        exact ih.reads_of_run_conditionals read
      · intro ts e rest read
        exact ih.reads_of_run_unaries read
      · intro ts e rest mark calls isMark read
        exact ih.begins_of_run_construction calls isMark read
      · intro ts items rest read
        exact ih.reads_of_run_listUntil read

end Stencil.Expr
