import Stencil.Proofs.Expr.Soundness

/-!
# Parsing without places

A parser looks at tokens and never at their places.  On lists of the same tokens it fails alike or
reads the same and leaves the same tokens.
-/

namespace Stencil.Expr

variable {α β : Type}

/-- Two computations that fail alike or give results that agree. -/
inductive Alike (agree : α → α → Prop) : Except Fault α → Except Fault α → Prop where
  | error {fault : Fault} : Alike agree (.error fault) (.error fault)
  | ok {a b : α} : agree a b → Alike agree (.ok a) (.ok b)

theorem Alike.bind {agree : α → α → Prop} {agreeNext : β → β → Prop}
    {first other : Except Fault α} {next otherNext : α → Except Fault β}
    (alike : Alike agree first other)
    (further : ∀ a b, agree a b → Alike agreeNext (next a) (otherNext b)) :
    Alike agreeNext (first >>= next) (other >>= otherNext) := by
  cases alike with
  | error => exact .error
  | ok same => exact further _ _ same

/-- The same result with the same tokens left. -/
def SameReading (x y : α × List Lexeme) : Prop :=
  x.1 = y.1 ∧ tokensOf x.2 = tokensOf y.2

/-- A parser that does not look at places. -/
def Placeless (parser : Parser α) : Prop :=
  ∀ ts us, tokensOf ts = tokensOf us → Alike SameReading (run parser ts) (run parser us)

/-- A step that does not look at places. -/
def PlacelessStep (step : Step α) : Prop :=
  ∀ a ts us, tokensOf ts = tokensOf us →
    Alike (Option.Rel SameReading) (runStep step a ts) (runStep step a us)

/-! ## First tokens -/

section

variable {ts us : List Lexeme}

theorem current_item_eq (same : tokensOf ts = tokensOf us) :
    (current ts).item = (current us).item := by
  cases ts with
  | nil =>
      cases us with
      | nil => rfl
      | cons u others => cases same
  | cons t rest =>
      cases us with
      | nil => cases same
      | cons u others => exact (List.cons.inj same).1

theorem after?_cases (accepts : Token → Option α) (same : tokensOf ts = tokensOf us) :
    (after? accepts ts = none ∧ after? accepts us = none) ∨
      ∃ a rest others, tokensOf rest = tokensOf others ∧
        after? accepts ts = some (a, rest) ∧ after? accepts us = some (a, others) := by
  cases ts with
  | nil =>
      cases us with
      | nil => exact .inl ⟨rfl, rfl⟩
      | cons u others => cases same
  | cons t rest =>
      cases us with
      | nil => cases same
      | cons u others =>
          rcases List.cons.inj same with ⟨first, behind⟩
          simp only [after?, first]
          cases accepts u.item with
          | none => exact .inl ⟨rfl, rfl⟩
          | some a => exact .inr ⟨a, rest, others, behind, rfl, rfl⟩

theorem afterSymbol?_cases (symbol : Symbol) (same : tokensOf ts = tokensOf us) :
    (afterSymbol? symbol ts = none ∧ afterSymbol? symbol us = none) ∨
      ∃ rest others, tokensOf rest = tokensOf others ∧
        afterSymbol? symbol ts = some rest ∧ afterSymbol? symbol us = some others := by
  rcases after?_cases (isSymbol? symbol) same with
    ⟨none, noneAlso⟩ | ⟨_, rest, others, behind, taken, takenAlso⟩
  · exact .inl ⟨by rw [afterSymbol?, none]; rfl, by rw [afterSymbol?, noneAlso]; rfl⟩
  · exact .inr ⟨rest, others, behind, by rw [afterSymbol?, taken]; rfl,
      by rw [afterSymbol?, takenAlso]; rfl⟩

end

/-! ## Combinators -/

theorem placeless_expect (symbol : Symbol) : Placeless (expect symbol) := by
  intro ts us same
  rw [run_expect, run_expect]
  rcases afterSymbol?_cases symbol same with
    ⟨missing, missingAlso⟩ | ⟨rest, others, behind, taken, takenAlso⟩
  · rw [missing, missingAlso, current_item_eq same]
    exact .error
  · rw [taken, takenAlso]
    exact .ok ⟨rfl, behind⟩

/-- Every parser takes something. -/
theorem length_lt_of_run {parser : Parser α} {ts rest : List Lexeme} {a : α}
    (read : run parser ts = .ok (a, rest)) : rest.length < ts.length := by
  unfold run at read
  cases parsed : parser ts with
  | error fault =>
      rw [parsed] at read
      cases read
  | ok taken =>
      rw [parsed] at read
      cases read
      exact taken.rest_lt

theorem PlacelessStep.runExtend {step : Step α} (placeless : PlacelessStep step) (a : α)
    (ts us : List Lexeme) (same : tokensOf ts = tokensOf us) :
    Alike SameReading (runExtend step a ts) (runExtend step a us) := by
  induction length : ts.length using Nat.strongRecOn generalizing a ts us with
  | _ n ih =>
      rw [runExtend_eq, runExtend_eq]
      have alike := placeless a ts us same
      generalize stepped : runStep step a ts = first at alike
      generalize runStep step a us = other at alike
      cases alike with
      | error => exact .error
      | ok agree =>
          cases agree with
          | none => exact .ok ⟨rfl, same⟩
          | @some x y agree =>
              rcases x with ⟨next, rest⟩
              rcases y with ⟨_, others⟩
              rcases agree with ⟨rfl, behind⟩
              exact ih _ (length ▸ length_lt_of_runStep stepped) next rest others behind rfl

theorem Placeless.extending {first : Parser α} {step : Step α} (placeless : Placeless first)
    (steps : PlacelessStep step) : Placeless (extending first step) := by
  intro ts us same
  rw [run_extending, run_extending]
  refine (placeless ts us same).bind fun x y agree => ?_
  rw [agree.1]
  exact steps.runExtend _ _ _ agree.2

theorem Placeless.listUntil {element : Parser α} (placeless : Placeless element) (close : Symbol) :
    Placeless (listUntil close element) := by
  intro ts us same
  induction length : ts.length using Nat.strongRecOn generalizing ts us with
  | _ n ih =>
      rw [run_listUntil, run_listUntil]
      rcases afterSymbol?_cases close same with
        ⟨opened, openedAlso⟩ | ⟨rest, others, behind, closed, closedAlso⟩
      · simp only [opened, openedAlso]
        have alike := placeless ts us same
        generalize read : run element ts = first at alike
        generalize run element us = other at alike
        cases alike with
        | error => exact .error
        | @ok x y agree =>
            rcases x with ⟨item, rest⟩
            rcases y with ⟨_, others⟩
            rcases agree with ⟨rfl, behind⟩
            dsimp only at behind
            simp only [ok_bind]
            rcases afterSymbol?_cases .comma behind with
              ⟨last, lastAlso⟩ | ⟨more, moreAlso, behindComma, comma, commaAlso⟩
            · simp only [last, lastAlso]
              exact (placeless_expect close _ _ behind).bind fun x y agree => .ok ⟨rfl, agree.2⟩
            · simp only [comma, commaAlso]
              have shorter : more.length < n := by
                have taken := length_lt_of_run read
                rcases afterSymbol?_eq_some_iff.mp comma with ⟨_, rfl, _⟩
                simp only [List.length_cons] at taken
                omega
              exact (ih _ shorter more moreAlso behindComma rfl).bind fun x y agree =>
                .ok ⟨by rw [agree.1], agree.2⟩
      · simp only [closed, closedAlso]
        exact .ok ⟨rfl, behind⟩

/-! ## The parsers of the grammar -/

/-- The parsers of a level do not look at places. -/
structure PlacelessLevel (l : Level) : Prop where
  nested : Placeless l.nested
  operand : Placeless l.operand
  construction : Placeless l.construction
  items : Placeless l.items

variable {l : Level}

theorem PlacelessLevel.primary (placeless : PlacelessLevel l) : Placeless (primary l) := by
  intro ts us same
  rw [run_primary, run_primary]
  rcases afterSymbol?_cases .leftParen same with
    ⟨noParen, noParenAlso⟩ | ⟨inside, insideAlso, behind, paren, parenAlso⟩
  · simp only [noParen, noParenAlso]
    rcases afterSymbol?_cases .leftBracket same with
      ⟨noBracket, noBracketAlso⟩ | ⟨inside, insideAlso, behind, bracket, bracketAlso⟩
    · simp only [noBracket, noBracketAlso]
      rcases after?_cases atom? same with
        ⟨noAtom, noAtomAlso⟩ | ⟨e, rest, others, behind, atom, atomAlso⟩
      · simp only [noAtom, noAtomAlso, current_item_eq same]
        exact .error
      · simp only [atom, atomAlso]
        exact .ok ⟨rfl, behind⟩
    · simp only [bracket, bracketAlso]
      refine (placeless.items inside insideAlso behind).bind fun x y items => ?_
      exact .ok ⟨by rw [items.1], items.2⟩
  · simp only [paren, parenAlso]
    refine (placeless.nested inside insideAlso behind).bind fun x y inner => ?_
    refine (placeless_expect .rightParen x.2 y.2 inner.2).bind fun _ _ closed => ?_
    exact .ok ⟨inner.1, closed.2⟩

theorem PlacelessLevel.base (placeless : PlacelessLevel l) : Placeless (base l) := by
  intro ts us same
  rw [run_base, run_base]
  rcases after?_cases isNew? same with ⟨noNew, noNewAlso⟩ | ⟨_, rest, others, behind, new, newAlso⟩
  · simp only [noNew, noNewAlso]
    exact placeless.primary ts us same
  · simp only [new, newAlso]
    exact placeless.construction rest others behind

theorem PlacelessLevel.accessStep (placeless : PlacelessLevel l) :
    PlacelessStep (accessStep l) := by
  intro object ts us same
  rw [runStep_accessStep, runStep_accessStep]
  rcases afterSymbol?_cases .dot same with
    ⟨noDot, noDotAlso⟩ | ⟨behindDot, behindDotAlso, sameBehind, dot, dotAlso⟩
  · simp only [noDot, noDotAlso]
    rcases afterSymbol?_cases .leftBracket same with
      ⟨noBracket, noBracketAlso⟩ | ⟨inside, insideAlso, behind, bracket, bracketAlso⟩
    · simp only [noBracket, noBracketAlso]
      exact .ok .none
    · simp only [bracket, bracketAlso]
      refine (placeless.nested inside insideAlso behind).bind fun x y key => ?_
      refine (placeless_expect .rightBracket x.2 y.2 key.2).bind fun _ _ closed => ?_
      exact .ok (.some ⟨by rw [key.1], closed.2⟩)
  · simp only [dot, dotAlso]
    rcases after?_cases propertyName? sameBehind with
      ⟨noName, noNameAlso⟩ | ⟨name, rest, others, behind, property, propertyAlso⟩
    · simp only [noName, noNameAlso, current_item_eq sameBehind]
      exact .error
    · simp only [property, propertyAlso]
      exact .ok (.some ⟨rfl, behind⟩)

theorem PlacelessLevel.postfixStep (placeless : PlacelessLevel l) :
    PlacelessStep (postfixStep l) := by
  intro object ts us same
  rw [runStep_postfixStep, runStep_postfixStep]
  rcases afterSymbol?_cases .leftParen same with
    ⟨noParen, noParenAlso⟩ | ⟨inside, insideAlso, behind, paren, parenAlso⟩
  · simp only [noParen, noParenAlso]
    exact placeless.accessStep object ts us same
  · simp only [paren, parenAlso]
    refine (placeless.nested.listUntil .rightParen inside insideAlso behind).bind fun x y args => ?_
    exact .ok (.some ⟨by rw [args.1], args.2⟩)

theorem PlacelessLevel.makeConstruction (placeless : PlacelessLevel l) :
    Placeless (Expr.construction l) := by
  intro ts us same
  rw [run_construction, run_construction]
  refine (placeless.base.extending placeless.accessStep ts us same).bind fun x y target => ?_
  rcases afterSymbol?_cases .leftParen target.2 with
    ⟨noParen, noParenAlso⟩ | ⟨inside, insideAlso, behind, paren, parenAlso⟩
  · simp only [noParen, noParenAlso, target.1]
    exact .ok ⟨rfl, target.2⟩
  · simp only [paren, parenAlso, target.1]
    refine (placeless.nested.listUntil .rightParen inside insideAlso behind).bind fun _ _ args => ?_
    exact .ok ⟨by rw [args.1], args.2⟩

theorem PlacelessLevel.unaries (placeless : PlacelessLevel l) : Placeless (unaries l) := by
  intro ts us same
  rw [run_unaries, run_unaries]
  rcases after?_cases UnaryOp.ofToken? same with
    ⟨noOp, noOpAlso⟩ | ⟨op, rest, others, behind, taken, takenAlso⟩
  · simp only [noOp, noOpAlso]
    exact placeless.base.extending placeless.postfixStep ts us same
  · simp only [taken, takenAlso]
    refine (placeless.operand rest others behind).bind fun _ _ operand => ?_
    exact .ok ⟨by rw [operand.1], operand.2⟩

theorem Placeless.binaryStep {operand : Parser Expr} (placeless : Placeless operand)
    (row : List BinaryOp) : PlacelessStep (binaryStep row operand) := by
  intro left ts us same
  rw [runStep_binaryStep, runStep_binaryStep]
  rcases after?_cases (operatorOf? row) same with
    ⟨noOp, noOpAlso⟩ | ⟨op, rest, others, behind, taken, takenAlso⟩
  · simp only [noOp, noOpAlso]
    exact .ok .none
  · simp only [taken, takenAlso]
    refine (placeless rest others behind).bind fun _ _ right => ?_
    exact .ok (.some ⟨by rw [right.1], right.2⟩)

theorem PlacelessLevel.binaries (placeless : PlacelessLevel l) (rows : List (List BinaryOp)) :
    Placeless (binaries l rows) := by
  induction rows with
  | nil => exact placeless.unaries
  | cons row tighter ih => exact ih.extending (ih.binaryStep row)

theorem PlacelessLevel.conditionals (placeless : PlacelessLevel l) :
    Placeless (conditionals l) := by
  intro ts us same
  rw [run_conditionals, run_conditionals]
  refine (placeless.binaries BinaryOp.rows ts us same).bind fun x y test => ?_
  rcases afterSymbol?_cases .question test.2 with
    ⟨noMark, noMarkAlso⟩ | ⟨inside, insideAlso, behind, mark, markAlso⟩
  · simp only [noMark, noMarkAlso]
    exact .ok test
  · simp only [mark, markAlso, test.1]
    refine (placeless.nested inside insideAlso behind).bind fun x y consequent => ?_
    refine (placeless_expect .colon x.2 y.2 consequent.2).bind fun _ _ colon => ?_
    refine (placeless.nested _ _ colon.2).bind fun _ _ alternate => ?_
    exact .ok ⟨by rw [consequent.1, alternate.1], alternate.2⟩

theorem placelessLevel_level (depth : Nat) : PlacelessLevel (level depth) := by
  induction depth with
  | zero =>
      have refuses {α : Type} : Placeless (α := α) fun ts => faultAt ts fun _ => .tooDeep :=
        fun _ _ _ => .error
      exact ⟨refuses, refuses, refuses, refuses⟩
  | succ depth ih =>
      exact ⟨ih.conditionals, ih.unaries, ih.makeConstruction, ih.nested.listUntil .rightBracket⟩

/-- What is left behind a whole text has to be its end. -/
theorem ofLexemes_mapError (ts : List Lexeme) :
    (ofLexemes ts).mapError (·.item) =
      run (level levelLimit).nested ts >>= fun read =>
        if (current read.2).item = .stop then .ok read.1
        else .error (.unexpected (current read.2).item) := by
  rw [ofLexemes, run]
  cases (level levelLimit).nested ts with
  | error fault => rfl
  | ok parsed =>
      simp only [ok_bind, outcome]
      split <;> rfl

/-- The same tokens spell the same expression, or what is wrong with them is the same. -/
theorem ofLexemes_mapError_congr {ts us : List Lexeme} (same : tokensOf ts = tokensOf us) :
    (ofLexemes ts).mapError (·.item) = (ofLexemes us).mapError (·.item) := by
  have alike := (placelessLevel_level levelLimit).nested ts us same
  rw [ofLexemes_mapError, ofLexemes_mapError]
  generalize run (level levelLimit).nested ts = first at alike
  generalize run (level levelLimit).nested us = other at alike
  cases alike with
  | error => rfl
  | ok agree => simp only [ok_bind, agree.1, current_item_eq agree.2]

end Stencil.Expr
