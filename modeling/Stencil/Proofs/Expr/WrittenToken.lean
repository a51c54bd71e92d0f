import Stencil.Proofs.Expr.StringLiteral
import Stencil.Proofs.Number.Literal

/-!
# The written forms of tokens

A token is scanned off the front of a text exactly when one of its written forms stands there and
what follows is nothing with which that form would go on.  White space goes on with no token.
-/

namespace Stencil.Expr

open Text

/-- The written forms of numbers. -/
inductive WritesNumber : List Char → Binary64 → Prop where
  | decimal {written : List Char} {l : Number.Literal} :
      Number.WritesLiteral written l → WritesNumber written (l.value false)
  | hex {mark : Char} {digits : List Char} :
      mark ∈ ['x', 'X'] →
      digits ≠ [] →
      (∀ c ∈ digits, isHexDigit c = true) →
      ofDigits 16 digits < Nat.pow 2 64 →
      WritesNumber ('0' :: mark :: digits) (Binary64.ofNat (ofDigits 16 digits))

/-- The written forms of tokens. -/
inductive WritesToken : List Char → Token → Prop where
  | number {written : List Char} {n : Binary64} :
      WritesNumber written n → WritesToken written (.number n)
  | string {quote : Char} {items : List StringItem} :
      quote ∈ ['\x22', '\x27'] →
      (∀ item ∈ items, item.IsAccepted quote) →
      WritesToken (quote :: (items.flatMap StringItem.text ++ [quote]))
        (.string (String.ofList (items.map StringItem.char)))
  | directive {name : List Char} :
      name ≠ [] →
      (∀ c ∈ name, Name.isContinue c = true) →
      WritesToken ('@' :: name) (.directive (String.ofList name))
  | word {word : List Char} :
      Name.isName word = true → WritesToken word (.ofWord (String.ofList word))
  | symbol (symbol : Symbol) : WritesToken symbol.text.toList (.symbol symbol)

/-- Characters with which a token would go on. -/
def goesOn : Token → Char → Bool
  | .number _, c => Name.isContinue c || c == '.'
  | .directive _, c | .name _, c | .keyword _, c => Name.isContinue c
  | .symbol .not, c | .symbol .lt, c | .symbol .gt, c => c == '='
  | .symbol .looseEq, c | .symbol .looseNe, c => c == '='
  | .symbol .dot, c => isDigit c
  | _, _ => false

variable {written rest s : List Char} {token : Token} {n : Binary64} {c : Char}

/-- Only numbers are written as numbers. -/
theorem WritesToken.writesNumber (writes : WritesToken written token)
    (isNumber : token = .number n) :
    WritesNumber written n := by
  cases writes with
  | number writes =>
      cases isNumber
      exact writes
  | word _ =>
      unfold Token.ofWord at isNumber
      split at isNumber <;> cases isNumber
  | _ => cases isNumber

/-! ## What follows a token -/

theorem goesOn_of_isSpace (token : Token) (space : isSpace c = true) : goesOn token c = false := by
  have noName := Name.not_isContinue_of_isSpace space
  have noEquals : (c == '=') = false := by
    rw [beq_eq_false_iff_ne]
    rintro rfl
    exact absurd space (by decide)
  have noPoint : (c == '.') = false := by
    rw [beq_eq_false_iff_ne]
    rintro rfl
    exact absurd space (by decide)
  have noDigit := Name.not_isDigit_of_not_isContinue noName
  unfold goesOn
  split <;> simp [noName, noEquals, noPoint, noDigit]

theorem isContinue_of_isHexDigit (hex : isHexDigit c = true) : Name.isContinue c = true := by
  rcases Option.isSome_iff_exists.mp hex with ⟨d, value⟩
  rcases Option.filter_eq_some_iff.mp value with ⟨value, -⟩
  have ascii : isDigit c = true ∨ isAsciiLetter c = true := by
    unfold digitValue? at value
    split at value
    · exact .inl ‹_›
    · split at value
      · rename_i upper
        exact .inr (by simpa [isAsciiLetter] using .inl (by simpa using upper))
      · split at value
        · rename_i lower
          exact .inr (by simpa [isAsciiLetter] using .inr (by simpa using lower))
        · cases value
  rcases ascii with digit | letter
  · exact Name.isContinue_of_isDigit digit
  · have small : c.toNat < 128 := by
      simp only [isAsciiLetter, Bool.or_eq_true, Bool.and_eq_true, decide_eq_true_eq] at letter
      omega
    simp [Name.isContinue, isAlphanumeric, isAlphabetic, small, letter]

/-- What a number does not go on with does not belong to a literal either. -/
theorem stops_of_goesOn_number (stops : Stops (goesOn (.number n)) rest) :
    Stops Name.isContinue rest ∧ Stops Number.goesOn rest := by
  constructor
  · intro c mem
    have refused := stops c mem
    simp only [goesOn, Bool.or_eq_false_iff] at refused
    exact refused.1
  · intro c mem
    have refused := stops c mem
    simp only [goesOn, Bool.or_eq_false_iff] at refused
    rcases refused with ⟨noName, noPoint⟩
    have noDigit := Name.not_isDigit_of_not_isContinue noName
    have noMark : c ≠ 'e' ∧ c ≠ 'E' := by
      constructor <;> (rintro rfl; exact absurd noName (by decide))
    simp [Number.goesOn, noDigit, noPoint, noMark]

theorem goesOn_ofWord (word : String) : goesOn (.ofWord word) = Name.isContinue := by
  unfold Token.ofWord
  split <;> rfl

/-! ## Written forms are scanned -/

/-- The characters of a literal make up no mark of a hexadecimal one. -/
theorem afterHexMark?_append {l : Number.Literal} (literal : Number.WritesLiteral written l)
    (stops : Stops Name.isContinue rest) : Number.afterHexMark? (written ++ rest) = none := by
  have plain := literal.all_isLiteralChar
  rcases literal.exists_cons with ⟨c, more, rfl, -⟩
  have noMark : ∀ x ∈ (more ++ rest).head?, x ≠ 'x' ∧ x ≠ 'X' := by
    intro x mem
    cases more with
    | nil =>
        have refused := stops x mem
        constructor <;> (rintro rfl; exact absurd refused (by decide))
    | cons d others =>
        rw [List.cons_append, List.head?_cons, Option.mem_some_iff] at mem
        have accepted := plain d (by simp)
        subst mem
        constructor <;> (rintro rfl; exact absurd accepted (by decide))
  rw [List.cons_append]
  unfold Number.afterHexMark?
  split
  · rename_i same
    rw [(List.cons.inj same).2] at noMark
    exact absurd rfl (noMark 'x' rfl).1
  · rename_i same
    rw [(List.cons.inj same).2] at noMark
    exact absurd rfl (noMark 'X' rfl).2
  · rfl

theorem scanNumber_append (writes : WritesNumber written n)
    (stops : Stops (goesOn (.number n)) rest) :
    scanNumber (written ++ rest) = .ok (.number n, rest) := by
  rcases stops_of_goesOn_number stops with ⟨noName, noLiteral⟩
  cases writes with
  | decimal literal =>
      have noStart : ¬ ((rest.head?.map Name.isStart).getD false) = true := by
        cases rest with
        | nil => simp
        | cons c more => simp [Name.not_isStart_of_not_isContinue (noName c rfl)]
      rw [scanNumber, afterHexMark?_append literal noName]
      simp only [scanDecimal, Number.readLiteral_append literal noLiteral, if_neg noStart]
  | @hex mark digits isMark nonempty all small =>
      have noHex : Stops isHexDigit rest := fun c mem =>
        Bool.eq_false_iff.mpr (mt isContinue_of_isHexDigit (Bool.eq_false_iff.mp (noName c mem)))
      have afterMark :
          Number.afterHexMark? ('0' :: mark :: digits ++ rest) = some (digits ++ rest) := by
        simp only [List.mem_cons, List.not_mem_nil, or_false] at isMark
        rcases isMark with rfl | rfl <;> rfl
      have taken : ¬ (digits.isEmpty || decide (Nat.pow 2 64 ≤ ofDigits 16 digits)) = true := by
        simpa [nonempty] using small
      rw [scanNumber, afterMark]
      simp only [scanHex, takeWhile_append_of_stops all noHex, dropWhile_append_of_stops all noHex,
        if_neg taken]

/-- A number is told from other tokens by its first characters. -/
theorem WritesNumber.exists_cons (writes : WritesNumber written n) :
    ∃ c more, written = c :: more ∧
      (isDigit c = true ∨ c = '.' ∧ ∃ d ∈ more.head?, isDigit d = true) := by
  cases writes with
  | decimal literal => exact literal.exists_cons
  | hex _ _ _ _ => exact ⟨'0', _, rfl, .inl rfl⟩

theorem isDigit_of_isStart (start : Name.isStart c = true) : isDigit c = false := by
  apply Bool.eq_false_iff.mpr
  intro digit
  simp only [isDigit, Bool.and_eq_true, decide_eq_true_eq] at digit
  have noMark : c ≠ '_' ∧ c ≠ '$' := by
    constructor <;> (rintro rfl; exact absurd digit (by decide))
  have ascii : c.toNat < 128 := by omega
  have letter : isAsciiLetter c = true := by
    simpa [Name.isStart, isAlphabetic, ascii, noMark] using start
  simp only [isAsciiLetter, Bool.or_eq_true, Bool.and_eq_true, decide_eq_true_eq] at letter
  omega

/-- A name begins with no character that stands for another kind of token. -/
theorem scanToken_of_isStart (start : Name.isStart c = true) (s : List Char) :
    scanToken c s = scanWord (c :: s) := by
  have noPoint : c ≠ '.' := by
    rintro rfl
    exact absurd start (by decide)
  have noQuote : ¬ (decide (c = '\x22') || decide (c = '\x27')) = true := by
    simp only [Bool.or_eq_true, decide_eq_true_eq, not_or]
    constructor <;> (rintro rfl; exact absurd start (by decide))
  have noMark : c ≠ '@' := by
    rintro rfl
    exact absurd start (by decide)
  simp only [scanToken, isDigit_of_isStart start, noPoint, decide_false, Bool.false_and,
    Bool.or_self, Bool.false_eq_true, if_false, if_neg noQuote, if_neg noMark, if_pos start]

/-- The longest symbol in front of a text that does not go on with it is that symbol. -/
theorem ofFront?_append (symbol : Symbol) (stops : Stops (goesOn (.symbol symbol)) rest) :
    Symbol.ofFront? (symbol.text.toList ++ rest) = some symbol := by
  cases rest with
  | nil => cases symbol <;> rfl
  | cons d more =>
      have refused := stops d rfl
      cases symbol
      case not | lt | gt | looseEq | looseNe =>
        have differs : d ≠ '=' := by
          simpa [goesOn] using refused
        simp [Symbol.ofFront?, Symbol.all, Symbol.text, List.isPrefixOf,
          beq_false_of_ne differs.symm]
      all_goals rfl

theorem scanSymbol_append (symbol : Symbol) (stops : Stops (goesOn (.symbol symbol)) rest) :
    ∃ c more, symbol.text.toList = c :: more ∧
      scanToken c (more ++ rest) = .ok (.symbol symbol, rest) := by
  rcases List.exists_cons_of_ne_nil symbol.text_toList_ne_nil with ⟨c, more, split⟩
  have front := ofFront?_append symbol stops
  have dropped : (c :: more ++ rest).drop symbol.text.length = rest := by
    rw [← String.length_toList, split, List.drop_left]
  have dispatched : scanToken c (more ++ rest) = scanSymbol c (more ++ rest) := by
    cases symbol
    case dot =>
      rcases List.cons.inj (show ['.'] = c :: more from split) with ⟨rfl, rfl⟩
      have noDigit : (rest.head?.map isDigit).getD false = false := by
        cases rest with
        | nil => rfl
        | cons d others => exact stops d rfl
      simp [scanToken, noDigit, Name.isStart, isAlphabetic, isDigit, isAsciiLetter]
    all_goals
      cases split
      rfl
  rw [split] at front
  refine ⟨c, more, split, ?_⟩
  rw [dispatched, scanSymbol]
  rw [List.cons_append] at front dropped
  rw [front]
  simp only [dropped]

/-- A written token is scanned as itself in front of anything with which it does not go on. -/
theorem scanToken_append (writes : WritesToken written token) (stops : Stops (goesOn token) rest) :
    ∃ c more, written = c :: more ∧ scanToken c (more ++ rest) = .ok (token, rest) := by
  cases writes with
  | number writes =>
      rcases writes.exists_cons with ⟨c, more, rfl, begins⟩
      have isNumber : (isDigit c || (c = '.' && ((more ++ rest).head?.map isDigit).getD false)) =
          true := by
        rcases begins with digit | ⟨rfl, d, mem, digit⟩
        · simp [digit]
        · simp [List.head?_append, Option.mem_def.mp mem, digit]
      refine ⟨c, more, rfl, ?_⟩
      rw [scanToken, if_pos isNumber, ← List.cons_append, scanNumber_append writes stops]
  | @string quote items isQuote accepted =>
      simp only [List.mem_cons, List.not_mem_nil, or_false] at isQuote
      have ordinary : quote ≠ '\\' := by
        rcases isQuote with rfl | rfl <;> decide
      have body : scanStringBody quote (items.flatMap StringItem.text ++ quote :: rest) =
          .ok (items.map StringItem.char, rest) :=
        (scanStringBody_eq_ok_iff ordinary).mpr ⟨items, accepted, rfl, rfl⟩
      refine ⟨quote, _, rfl, ?_⟩
      rw [scanToken_of_isQuote isQuote, scanString, List.append_assoc, List.singleton_append, body]
  | directive nonempty all =>
      refine ⟨'@', _, rfl, ?_⟩
      have dispatched : ∀ s, scanToken '@' s = scanDirective s := fun _ => rfl
      rw [dispatched]
      simp only [scanDirective, takeWhile_append_of_stops all stops,
        dropWhile_append_of_stops all stops, List.isEmpty_iff, nonempty, if_false]
  | word isName =>
      cases written with
      | nil => cases isName
      | cons c more =>
          simp only [Name.isName, Bool.and_eq_true, List.all_eq_true] at isName
          rcases isName with ⟨start, all⟩
          have all : ∀ d ∈ c :: more, Name.isContinue d = true :=
            List.forall_mem_cons.mpr ⟨Name.isContinue_of_isStart start, all⟩
          rw [goesOn_ofWord] at stops
          refine ⟨c, more, rfl, ?_⟩
          rw [scanToken_of_isStart start, ← List.cons_append, scanWord,
            takeWhile_append_of_stops all stops, dropWhile_append_of_stops all stops]
  | symbol symbol => exact scanSymbol_append symbol stops

/-! ## What is scanned was written -/

theorem exists_of_afterHexMark? {hex : List Char} (marked : Number.afterHexMark? s = some hex) :
    ∃ mark ∈ ['x', 'X'], s = '0' :: mark :: hex := by
  unfold Number.afterHexMark? at marked
  split at marked
  · cases marked
    exact ⟨'x', by simp, rfl⟩
  · cases marked
    exact ⟨'X', by simp, rfl⟩
  · cases marked

theorem exists_writes_of_scanNumber (scanned : scanNumber s = .ok (token, rest)) :
    ∃ written n, WritesNumber written n ∧ token = .number n ∧ s = written ++ rest := by
  unfold scanNumber at scanned
  split at scanned
  · rename_i hex marked
    rcases exists_of_afterHexMark? marked with ⟨mark, isMark, rfl⟩
    simp only [scanHex] at scanned
    split at scanned
    · cases scanned
    · rename_i taken
      simp only [Bool.or_eq_true, List.isEmpty_iff, decide_eq_true_eq, not_or, Nat.not_le] at taken
      cases scanned
      exact ⟨_, _, .hex isMark taken.1 (fun c mem => List.mem_takeWhile_imp mem) taken.2, rfl,
        by simp⟩
  · simp only [scanDecimal] at scanned
    split at scanned
    · cases scanned
    · rename_i read
      split at scanned
      · cases scanned
      · cases scanned
        rcases Number.exists_of_readLiteral read with ⟨written, literal, split⟩
        exact ⟨written, _, .decimal literal, rfl, split⟩

theorem exists_writes_of_scanString {quote : Char} (isQuote : quote ∈ ['\x22', '\x27'])
    (scanned : scanString quote s = .ok (token, rest)) :
    ∃ written, WritesToken written token ∧ quote :: s = written ++ rest := by
  have ordinary : quote ≠ '\\' := by
    simp only [List.mem_cons, List.not_mem_nil, or_false] at isQuote
    rcases isQuote with rfl | rfl <;> decide
  unfold scanString at scanned
  split at scanned
  · rename_i body more scannedBody
    cases scanned
    rcases (scanStringBody_eq_ok_iff ordinary).mp scannedBody with ⟨items, accepted, rfl, rfl⟩
    exact ⟨_, .string isQuote accepted, by simp⟩
  · cases scanned

theorem exists_writes_of_scanSymbol (scanned : scanSymbol c s = .ok (token, rest)) :
    ∃ written, WritesToken written token ∧ c :: s = written ++ rest := by
  unfold scanSymbol at scanned
  split at scanned
  · rename_i symbol front
    cases scanned
    have isFront := List.find?_some front
    rcases List.isPrefixOf_iff_prefix.mp isFront with ⟨more, split⟩
    refine ⟨_, .symbol symbol, ?_⟩
    rw [← split, ← String.length_toList, List.drop_left]
  · cases scanned

/-- Every scanned token stands in one of its written forms at the front of the text. -/
theorem exists_writes_of_scanToken (scanned : scanToken c s = .ok (token, rest)) :
    ∃ written, WritesToken written token ∧ c :: s = written ++ rest := by
  unfold scanToken at scanned
  split at scanned
  · rcases exists_writes_of_scanNumber scanned with ⟨written, n, writes, rfl, split⟩
    exact ⟨written, .number writes, split⟩
  split at scanned
  · rename_i isQuote
    exact exists_writes_of_scanString (by simpa using isQuote) scanned
  split at scanned
  · rename_i isMark
    subst isMark
    simp only [scanDirective, List.isEmpty_iff] at scanned
    split at scanned
    · cases scanned
    · rename_i nonempty
      cases scanned
      exact ⟨_, .directive nonempty fun c mem => List.mem_takeWhile_imp mem, by simp⟩
  split at scanned
  · rename_i start
    cases scanned
    have isName : Name.isName ((c :: s).takeWhile Name.isContinue) = true := by
      rw [List.takeWhile_cons_of_pos (Name.isContinue_of_isStart start), Name.isName, start,
        Bool.true_and, List.all_eq_true]
      exact fun d mem => List.mem_takeWhile_imp mem
    exact ⟨_, .word isName, List.takeWhile_append_dropWhile.symm⟩
  · exact exists_writes_of_scanSymbol scanned

/-! ## The ends of a token -/

theorem not_isSpace_of_isContinue (continues : Name.isContinue c = true) : isSpace c = false :=
  Bool.eq_false_iff.mpr fun space =>
    absurd continues (Bool.eq_false_iff.mp (Name.not_isContinue_of_isSpace space))

theorem not_isSpace_of_isLiteralChar (literal : Number.isLiteralChar c = true) :
    isSpace c = false := by
  simp only [Number.isLiteralChar, Number.goesOn, Bool.or_eq_true, beq_iff_eq] at literal
  rcases literal with ((((digit | rfl) | rfl) | rfl) | rfl) | rfl
  · exact not_isSpace_of_isContinue (Name.isContinue_of_isDigit digit)
  all_goals rfl

theorem WritesNumber.not_isSpace (writes : WritesNumber written n) :
    ∀ c ∈ written, isSpace c = false := by
  cases writes with
  | decimal literal =>
      exact fun c mem => not_isSpace_of_isLiteralChar (literal.all_isLiteralChar c mem)
  | @hex mark digits isMark _ all _ =>
      intro c mem
      simp only [List.mem_cons, List.not_mem_nil, or_false] at isMark mem
      rcases mem with rfl | rfl | mem
      · rfl
      · rcases isMark with rfl | rfl <;> rfl
      · exact not_isSpace_of_isContinue (isContinue_of_isHexDigit (all c mem))

/-- White space stands in a token only between quotes. -/
theorem WritesToken.not_isSpace_or_quoted (writes : WritesToken written token) :
    (∀ c ∈ written, isSpace c = false) ∨
      ∃ quote body, isSpace quote = false ∧ written = quote :: (body ++ [quote]) := by
  cases writes with
  | number writes => exact .inl writes.not_isSpace
  | @string quote items isQuote _ =>
      simp only [List.mem_cons, List.not_mem_nil, or_false] at isQuote
      exact .inr ⟨quote, _, by rcases isQuote with rfl | rfl <;> rfl, rfl⟩
  | directive _ all =>
      exact .inl (List.forall_mem_cons.mpr
        ⟨rfl, fun c mem => not_isSpace_of_isContinue (all c mem)⟩)
  | word isName =>
      cases written with
      | nil => cases isName
      | cons c more =>
          simp only [Name.isName, Bool.and_eq_true, List.all_eq_true] at isName
          exact .inl (List.forall_mem_cons.mpr
            ⟨not_isSpace_of_isContinue (Name.isContinue_of_isStart isName.1),
              fun d mem => not_isSpace_of_isContinue (isName.2 d mem)⟩)
  | symbol symbol =>
      have solid : symbol.text.toList.all (fun c => !isSpace c) = true := by
        cases symbol <;> decide
      exact .inl (by simpa using solid)

theorem WritesToken.ne_nil (writes : WritesToken written token) : written ≠ [] := by
  have alone : Stops (goesOn token) [] := stops_nil
  rcases scanToken_append writes alone with ⟨c, more, rfl, -⟩
  exact List.cons_ne_nil c more

theorem WritesToken.stops_isSpace (writes : WritesToken written token) :
    Stops isSpace (written ++ rest) := by
  rcases List.exists_cons_of_ne_nil writes.ne_nil with ⟨c, more, rfl⟩
  rw [List.cons_append]
  refine stops_cons ?_ _
  rcases writes.not_isSpace_or_quoted with plain | ⟨quote, body, solid, split⟩
  · exact plain c List.mem_cons_self
  · rwa [(List.cons.inj split).1]

theorem WritesToken.not_isSpace_getLast (writes : WritesToken written token) :
    ∀ c ∈ written.getLast?, isSpace c = false := by
  intro c mem
  rcases writes.not_isSpace_or_quoted with plain | ⟨quote, body, solid, rfl⟩
  · exact plain c (List.mem_of_getLast? mem)
  · rw [← List.cons_append, List.getLast?_concat, Option.mem_some_iff] at mem
    exact mem ▸ solid

end Stencil.Expr
