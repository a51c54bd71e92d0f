import Stencil.Expr.Parser
import Stencil.Proofs.Sequence

/-!
# Places of faults in expressions

The scanner fails at a place in the text that it reads, and its tokens stand there.  A parser fails
at the first of the tokens that are left, and only ever leaves tokens that it was given.  So a fault
of an expression stands in the text of the expression or right behind it.
-/

namespace Stencil.Expr

open Text

variable {α β : Type} {limit : Nat}

/-- Tokens stand at places up to a limit. -/
def Within (limit : Nat) (ts : List Lexeme) : Prop :=
  ∀ t ∈ ts, t.offset ≤ limit

/-- A parser that is given tokens up to a place fails up to that place and leaves such tokens. -/
def Bounded (limit : Nat) (parser : Parser α) : Prop :=
  ∀ ts, Within limit ts → FaultsWithin limit (fun parsed => Within limit parsed.rest) (parser ts)

/-- The same for a step that extends a result. -/
def BoundedStep (limit : Nat)
    (step : α → (ts : List Lexeme) → Except (Located Fault) (Option (Parsed α ts.length))) : Prop :=
  ∀ a ts, Within limit ts →
    FaultsWithin limit (fun applied => ∀ parsed ∈ applied, Within limit parsed.rest) (step a ts)

/-! ## The scanner -/

theorem offset_le_of_scanNumber {s : List Char} :
    FaultsWithin s.length (fun _ => True) (scanNumber s) := by
  rw [scanNumber]
  split
  · simp only [scanHex]
    split
    · exact Nat.zero_le _
    · trivial
  · rw [scanDecimal]
    split
    · exact Nat.zero_le _
    · split
      · exact Nat.sub_le _ _
      · trivial

/-- A token that cannot be scanned is at fault in its text. -/
theorem offset_le_of_scanToken (c : Char) (s : List Char) :
    FaultsWithin (c :: s).length (fun _ => True) (scanToken c s) := by
  rw [scanToken]
  split
  · exact offset_le_of_scanNumber
  · split
    · rw [scanString]
      split
      · trivial
      · exact Nat.zero_le _
    · split
      · simp only [scanDirective]
        split
        · exact Nat.zero_le _
        · trivial
      · split
        · trivial
        · rw [scanSymbol]
          split
          · trivial
          · exact Nat.zero_le _

/-- Scanning a text that starts at a place fails, and finds tokens, up to the end of the text. -/
theorem within_scanFrom (offset : Nat) (s : List Char) :
    FaultsWithin (offset + s.length) (Within (offset + s.length)) (scanFrom offset s) := by
  induction length : s.length using Nat.strongRecOn generalizing offset s with
  | _ n ih =>
      subst length
      have leading := congrArg List.length (trimStart_append_leading s)
      rw [List.length_append] at leading
      rw [scanFrom]
      split
      · intro t mem
        rcases List.mem_singleton.mp mem with rfl
        exact Nat.le_refl _
      · rename_i c more trimmed
        rw [trimmed, ← leadingSpaces] at leading
        split
        · rename_i fault failed
          have inside := offset_le_of_scanToken c more
          rw [failed] at inside
          simp only [FaultsWithin, Located.shift_offset] at inside ⊢
          omega
        · rename_i token rest scanned
          have rest_le := length_le_of_scanToken scanned
          rw [List.length_cons] at leading
          have stop_eq : offset + leadingSpaces s + (more.length + 1 - rest.length) + rest.length =
              offset + s.length := by
            omega
          have others := ih rest.length (by omega)
            (offset + leadingSpaces s + (more.length + 1 - rest.length)) rest rfl
          rw [stop_eq] at others
          refine others.bind fun lexemes within t mem => ?_
          rcases List.mem_cons.mp mem with rfl | mem
          · show offset + leadingSpaces s ≤ offset + s.length
            omega
          · exact within t mem

/-! ## Reading from a list of tokens -/

section

variable {ts : List Lexeme}

theorem offset_current_le (within : Within limit ts) : (current ts).offset ≤ limit := by
  cases ts with
  | nil => exact Nat.zero_le limit
  | cons t rest => exact within t List.mem_cons_self

theorem faultAt_within (within : Within limit ts) (fault : Token → Fault) {holds : α → Prop} :
    FaultsWithin limit holds (faultAt ts fault) :=
  offset_current_le within

theorem within_of_take? {accepts : Token → Option α} {parsed : Parsed α ts.length}
    (taken : take? accepts ts = some parsed) (within : Within limit ts) :
    Within limit parsed.rest := by
  cases ts with
  | nil => cases taken
  | cons t rest =>
      rcases Option.map_eq_some_iff.mp taken with ⟨a, _, rfl⟩
      exact fun other mem => within other (List.mem_cons_of_mem t mem)

theorem within_of_takeSymbol? {symbol : Symbol} {parsed : Parsed Unit ts.length}
    (taken : takeSymbol? symbol ts = some parsed) (within : Within limit ts) :
    Within limit parsed.rest :=
  within_of_take? taken within

end

theorem bounded_expect (symbol : Symbol) : Bounded limit (expect symbol) := by
  intro ts within
  rw [expect]
  split
  · rename_i taken found
    exact within_of_takeSymbol? found within
  · exact faultAt_within within _

section

variable {step : α → (ts : List Lexeme) → Except (Located Fault) (Option (Parsed α ts.length))}

theorem BoundedStep.extend (bounded : BoundedStep limit step) (a : α) (ts : List Lexeme)
    (within : Within limit ts) :
    FaultsWithin limit (fun parsed => Within limit parsed.rest) (extend step a ts) := by
  have stepWithin := bounded a ts within
  rw [Expr.extend]
  split
  · rename_i fault failed
    rwa [failed] at stepWithin
  · exact within
  · rename_i next applied
    rw [applied] at stepWithin
    have shorter := next.rest_lt
    have further := bounded.extend next.result next.rest (stepWithin next rfl)
    split
    · rename_i fault failed
      rwa [failed] at further
    · rename_i last extended
      rwa [extended] at further
termination_by ts.length
decreasing_by exact shorter

theorem Bounded.extending {first : Parser α} (bounded : Bounded limit first)
    (steps : BoundedStep limit step) : Bounded limit (extending first step) := by
  intro ts within
  have firstWithin := bounded ts within
  rw [Expr.extending]
  split
  · rename_i fault failed
    rwa [failed] at firstWithin
  · rename_i start parsed
    rw [parsed] at firstWithin
    have further := steps.extend start.result start.rest firstWithin
    split
    · rename_i fault failed
      rwa [failed] at further
    · rename_i last extended
      rwa [extended] at further

end

theorem Bounded.listUntil {element : Parser α} (bounded : Bounded limit element) (close : Symbol) :
    Bounded limit (listUntil close element) := by
  intro ts within
  rw [Expr.listUntil]
  split
  · rename_i closed found
    exact within_of_takeSymbol? found within
  · have elementWithin := bounded ts within
    split
    · rename_i fault failed
      rwa [failed] at elementWithin
    · rename_i first parsed
      rw [parsed] at elementWithin
      split
      · have closeWithin := bounded_expect close first.rest elementWithin
        split
        · rename_i fault failed
          rwa [failed] at closeWithin
        · rename_i closed expected
          rwa [expected] at closeWithin
      · rename_i comma found
        have shorter := Nat.lt_trans comma.rest_lt first.rest_lt
        have further := bounded.listUntil close comma.rest
          (within_of_takeSymbol? found elementWithin)
        split
        · rename_i fault failed
          rwa [failed] at further
        · rename_i others listed
          rwa [listed] at further
termination_by ts => ts.length
decreasing_by exact shorter

/-! ## The parsers of the grammar -/

/-- The parsers of a level fail up to the last place of their tokens. -/
structure BoundedLevel (limit : Nat) (l : Level) : Prop where
  nested : Bounded limit l.nested
  operand : Bounded limit l.operand
  construction : Bounded limit l.construction
  items : Bounded limit l.items

variable {l : Level}

theorem BoundedLevel.primary (bounded : BoundedLevel limit l) : Bounded limit (primary l) := by
  intro ts within
  rw [Expr.primary]
  split
  · rename_i paren found
    refine (bounded.nested _ (within_of_takeSymbol? found within)).bind fun inner inside => ?_
    exact (bounded_expect .rightParen _ inside).bind fun close behind => behind
  · split
    · rename_i bracket found
      exact (bounded.items _ (within_of_takeSymbol? found within)).bind fun items behind => behind
    · split
      · rename_i atom found
        exact within_of_take? found within
      · exact faultAt_within within _

theorem BoundedLevel.base (bounded : BoundedLevel limit l) : Bounded limit (base l) := by
  intro ts within
  rw [Expr.base]
  split
  · rename_i mark found
    exact (bounded.construction _ (within_of_take? found within)).bind fun made behind => behind
  · exact bounded.primary ts within

theorem BoundedLevel.accessStep (bounded : BoundedLevel limit l) :
    BoundedStep limit (accessStep l) := by
  intro object ts within
  rw [Expr.accessStep]
  split
  · rename_i dot found
    have behindDot := within_of_takeSymbol? found within
    split
    · rename_i property named
      have behind := within_of_take? named behindDot
      rintro parsed ⟨⟩
      exact behind
    · exact faultAt_within behindDot _
  · split
    · rename_i bracket found
      refine (bounded.nested _ (within_of_takeSymbol? found within)).bind fun key inside => ?_
      refine (bounded_expect .rightBracket _ inside).bind fun close behind => ?_
      rintro parsed ⟨⟩
      exact behind
    · rintro parsed ⟨⟩

theorem BoundedLevel.postfixStep (bounded : BoundedLevel limit l) :
    BoundedStep limit (postfixStep l) := by
  intro object ts within
  rw [Expr.postfixStep]
  split
  · rename_i paren found
    refine (bounded.nested.listUntil .rightParen _ (within_of_takeSymbol? found within)).bind
      fun args behind => ?_
    rintro parsed ⟨⟩
    exact behind
  · exact bounded.accessStep object ts within

theorem BoundedLevel.makeConstruction (bounded : BoundedLevel limit l) :
    Bounded limit (Expr.construction l) := by
  intro ts within
  rw [Expr.construction]
  refine (bounded.base.extending bounded.accessStep ts within).bind fun target inside => ?_
  split
  · rename_i paren found
    exact (bounded.nested.listUntil .rightParen _ (within_of_takeSymbol? found inside)).bind
      fun args behind => behind
  · exact inside

theorem BoundedLevel.unaries (bounded : BoundedLevel limit l) : Bounded limit (unaries l) := by
  intro ts within
  rw [Expr.unaries]
  split
  · rename_i op found
    exact (bounded.operand _ (within_of_take? found within)).bind fun operand behind => behind
  · exact bounded.base.extending bounded.postfixStep ts within

theorem Bounded.binaryStep {operand : Parser Expr} (bounded : Bounded limit operand)
    (row : List BinaryOp) : BoundedStep limit (binaryStep row operand) := by
  intro left ts within
  rw [Expr.binaryStep]
  split
  · rename_i op found
    refine (bounded _ (within_of_take? found within)).bind fun right behind => ?_
    rintro parsed ⟨⟩
    exact behind
  · rintro parsed ⟨⟩

theorem BoundedLevel.binaries (bounded : BoundedLevel limit l) (rows : List (List BinaryOp)) :
    Bounded limit (binaries l rows) := by
  induction rows with
  | nil => exact bounded.unaries
  | cons row tighter ih => exact ih.extending (ih.binaryStep row)

theorem BoundedLevel.conditionals (bounded : BoundedLevel limit l) :
    Bounded limit (conditionals l) := by
  intro ts within
  rw [Expr.conditionals]
  refine (bounded.binaries BinaryOp.rows ts within).bind fun test inside => ?_
  split
  · rename_i mark found
    refine (bounded.nested _ (within_of_takeSymbol? found inside)).bind fun yes behindYes => ?_
    refine (bounded_expect .colon _ behindYes).bind fun colon behindColon => ?_
    exact (bounded.nested _ behindColon).bind fun no behindNo => behindNo
  · exact inside

theorem boundedLevel_level (limit depth : Nat) : BoundedLevel limit (level depth) := by
  induction depth with
  | zero =>
      have refuses {α : Type} :
          Bounded (α := α) limit fun ts => faultAt ts fun _ => .tooDeep := fun ts within =>
        faultAt_within within _
      exact ⟨refuses, refuses, refuses, refuses⟩
  | succ depth ih =>
      exact ⟨ih.conditionals, ih.unaries, ih.makeConstruction, ih.nested.listUntil .rightBracket⟩

theorem ofLexemes_within {ts : List Lexeme} (within : Within limit ts) :
    FaultsWithin limit (fun _ => True) (ofLexemes ts) := by
  rw [ofLexemes]
  refine ((boundedLevel_level limit levelLimit).nested ts within).bind fun parsed behind => ?_
  split
  · trivial
  · exact faultAt_within behind _

/-- A text that spells no expression is at fault in the text or right behind it. -/
theorem offset_le_of_parse {source : String} {fault : Located Fault}
    (refused : parse source = .error fault) : fault.offset ≤ source.toList.length := by
  have scanned := within_scanFrom 0 source.toList
  rw [Nat.zero_add] at scanned
  have within : FaultsWithin source.toList.length (fun _ => True) (parse source) :=
    scanned.bind fun lexemes lexemesWithin => ofLexemes_within lexemesWithin
  rwa [refused] at within

end Stencil.Expr
