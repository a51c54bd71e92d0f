import Stencil.Proofs.Expr.Scanning

/-!
# One character ahead

Where a token ends is decided by the character behind it.  What stands behind that character does
not matter, so a scanned text may go on as it likes: all its tokens stay what they are, except that
the last one may go on as well if nothing stands behind it.
-/

namespace Stencil

/-! ## Runs -/

namespace Text

variable {accepts : Char → Bool} {s : List Char}

/-- A run that ends within a text is the same in a longer text. -/
theorem dropWhile_append_right (ends : s.dropWhile accepts ≠ []) (more : List Char) :
    (s ++ more).dropWhile accepts = s.dropWhile accepts ++ more := by
  rw [List.dropWhile_append, if_neg (by simpa using ends)]

theorem takeWhile_append_right (ends : s.dropWhile accepts ≠ []) (more : List Char) :
    (s ++ more).takeWhile accepts = s.takeWhile accepts := by
  have whole : (s ++ more).takeWhile accepts ++ (s ++ more).dropWhile accepts = s ++ more :=
    List.takeWhile_append_dropWhile
  rw [dropWhile_append_right ends, ← List.append_assoc, List.append_cancel_right_eq] at whole
  exact List.append_cancel_right (whole.trans List.takeWhile_append_dropWhile.symm)

end Text

/-! ## Literals -/

namespace Number

open Text

variable {s rest : List Char} {l : Literal}

theorem readFraction_append_right (ends : (readFraction s).2 ≠ []) (more : List Char) :
    readFraction (s ++ more) = ((readFraction s).1, (readFraction s).2 ++ more) := by
  cases s with
  | nil => exact absurd rfl ends
  | cons c others =>
      by_cases point : c = '.'
      · subst point
        simp only [readFraction] at ends
        simp only [List.cons_append, readFraction, takeWhile_append_right ends,
          dropWhile_append_right ends]
      · simp [readFraction, point]

theorem readSign_append_right (nonempty : s ≠ []) (more : List Char) :
    readSign (s ++ more) = ((readSign s).1, (readSign s).2 ++ more) := by
  cases s with
  | nil => exact absurd rfl nonempty
  | cons c others =>
      by_cases minus : c = '-'
      · subst minus
        rfl
      · by_cases plus : c = '+'
        · subst plus
          rfl
        · simp [readSign, minus, plus]

theorem readExponent_append_right (ends : (readExponent s).2 ≠ [])
    (unmarked : ∀ c ∈ (readExponent s).2.head?, c ≠ 'e' ∧ c ≠ 'E') (more : List Char) :
    readExponent (s ++ more) = ((readExponent s).1, (readExponent s).2 ++ more) := by
  cases s with
  | nil => exact absurd rfl ends
  | cons c others =>
      rw [List.cons_append, readExponent]
      rw [readExponent] at ends unmarked ⊢
      split
      · rename_i isMark
        rw [if_pos isMark] at ends unmarked
        dsimp only at ends unmarked ⊢
        split at ends
        · -- A mark without digits is left, and that is not the case.
          rename_i noDigits
          rw [if_pos noDigits] at unmarked
          have refused := unmarked c rfl
          simp [refused] at isMark
        · rename_i digits
          have nonempty : others ≠ [] := by
            rintro rfl
            exact digits rfl
          rw [readSign_append_right nonempty, if_neg digits]
          simp only [takeWhile_append_right ends, dropWhile_append_right ends, if_neg digits]
      · rfl

theorem readLiteral_append_right (read : readLiteral s = some (l, rest)) (ends : rest ≠ [])
    (unmarked : ∀ c ∈ rest.head?, c ≠ 'e' ∧ c ≠ 'E') (more : List Char) :
    readLiteral (s ++ more) = some (l, rest ++ more) := by
  rw [readLiteral] at read ⊢
  dsimp only at read ⊢
  split at read
  · cases read
  · rename_i nonempty
    cases read
    have behindFraction : (readFraction (s.dropWhile isDigit)).2 ≠ [] := by
      intro atEnd
      rw [atEnd] at ends
      exact ends rfl
    have behindWhole : s.dropWhile isDigit ≠ [] := by
      intro atEnd
      rw [atEnd] at behindFraction
      exact behindFraction rfl
    simp only [takeWhile_append_right behindWhole, dropWhile_append_right behindWhole,
      readFraction_append_right behindFraction, readExponent_append_right ends unmarked,
      if_neg nonempty]

end Number

namespace Expr

open Text

variable {s rest more : List Char} {c : Char} {token : Token}

/-! ## Tokens -/

theorem scanHex_append_right (scanned : scanHex s = .ok (token, rest)) (ends : rest ≠ [])
    (more : List Char) : scanHex (s ++ more) = .ok (token, rest ++ more) := by
  simp only [scanHex] at scanned ⊢
  split at scanned
  · cases scanned
  · rename_i digits
    cases scanned
    rw [takeWhile_append_right ends, dropWhile_append_right ends, if_neg digits]

theorem scanDecimal_append_right (scanned : scanDecimal s = .ok (token, rest)) (ends : rest ≠ [])
    (more : List Char) : scanDecimal (s ++ more) = .ok (token, rest ++ more) := by
  unfold scanDecimal at scanned
  split at scanned
  · cases scanned
  · rename_i read
    split at scanned
    · cases scanned
    · rename_i noStart
      cases scanned
      rcases List.exists_cons_of_ne_nil ends with ⟨d, others, rfl⟩
      have unmarked : ∀ x ∈ (d :: others).head?, x ≠ 'e' ∧ x ≠ 'E' := by
        intro x mem
        cases mem
        constructor <;> (rintro rfl; exact noStart rfl)
      rw [scanDecimal, Number.readLiteral_append_right read ends unmarked]
      exact if_neg noStart

theorem scanNumber_append_right (scanned : scanNumber s = .ok (token, rest)) (ends : rest ≠ [])
    (more : List Char) : scanNumber (s ++ more) = .ok (token, rest ++ more) := by
  rw [scanNumber] at scanned
  cases marked : Number.afterHexMark? s with
  | some hex =>
      rw [marked] at scanned
      rcases exists_of_afterHexMark? marked with ⟨mark, isMark, rfl⟩
      have still : Number.afterHexMark? ('0' :: mark :: hex ++ more) = some (hex ++ more) := by
        simp only [List.mem_cons, List.not_mem_nil, or_false] at isMark
        rcases isMark with rfl | rfl <;> rfl
      rw [scanNumber, still]
      exact scanHex_append_right scanned ends more
  | none =>
      rw [marked] at scanned
      have still : Number.afterHexMark? (s ++ more) = none := by
        apply Option.eq_none_iff_forall_ne_some.mpr
        intro hex found
        rcases exists_of_afterHexMark? found with ⟨mark, isMark, split⟩
        rcases s with _ | ⟨d, _ | ⟨e, others⟩⟩
        · cases scanned
        · rcases (List.cons.inj split).1 with rfl : d = '0'
          cases scanned
          exact ends rfl
        · simp only [List.cons_append, List.cons.injEq] at split
          rcases split with ⟨rfl, rfl, -⟩
          simp only [List.mem_cons, List.not_mem_nil, or_false] at isMark
          rcases isMark with rfl | rfl <;> cases marked
      rw [scanNumber, still]
      exact scanDecimal_append_right scanned ends more

/-- The longest symbol at the front of a text does not go on with what follows it. -/
theorem stops_of_ofFront? {symbol : Symbol}
    (front : Symbol.ofFront? (symbol.text.toList ++ rest) = some symbol) (notDot : symbol ≠ .dot) :
    Stops (goesOn (.symbol symbol)) rest := by
  intro d mem
  cases rest with
  | nil => cases mem
  | cons x others =>
      rcases Option.some.inj mem with rfl : x = d
      apply Bool.eq_false_iff.mpr
      intro goes
      cases symbol
      case dot => exact notDot rfl
      case not | lt | gt | looseEq | looseNe =>
        obtain rfl : x = '=' := by simpa [goesOn] using goes
        cases third : ['='].isPrefixOf others <;>
          simp [Symbol.ofFront?, Symbol.all, Symbol.text, List.isPrefixOf, third] at front
      all_goals cases goes

theorem scanSymbol_append_right (scanned : scanSymbol c s = .ok (token, rest)) (ends : rest ≠ [])
    (noNumber : c = '.' → Stops isDigit s) (more : List Char) :
    scanSymbol c (s ++ more) = .ok (token, rest ++ more) := by
  unfold scanSymbol at scanned
  split at scanned
  · rename_i symbol front
    cases scanned
    have isFront := List.find?_some front
    rcases List.isPrefixOf_iff_prefix.mp isFront with ⟨behind, split⟩
    have rest_eq : (c :: s).drop symbol.text.length = behind := by
      rw [← split, ← String.length_toList, List.drop_left]
    rw [rest_eq] at ends ⊢
    rw [← split] at front
    have stops : Stops (goesOn (.symbol symbol)) behind := by
      by_cases isDot : symbol = .dot
      · subst isDot
        rcases List.cons.inj (show '.' :: behind = c :: s from split) with ⟨rfl, rfl⟩
        exact noNumber rfl
      · exact stops_of_ofFront? front isDot
    have stopsMore : Stops (goesOn (.symbol symbol)) (behind ++ more) := by
      intro d mem
      rw [List.head?_append_of_ne_nil _ ends] at mem
      exact stops d mem
    rw [scanSymbol, ← List.cons_append, ← split, List.append_assoc,
      ofFront?_append symbol stopsMore]
    simp [← String.length_toList]
  · cases scanned

theorem scanString_append_right {quote : Char} (ordinary : quote ≠ '\\')
    (scanned : scanString quote s = .ok (token, rest)) (more : List Char) :
    scanString quote (s ++ more) = .ok (token, rest ++ more) := by
  unfold scanString at scanned
  split at scanned
  · rename_i scannedBody
    cases scanned
    rcases (scanStringBody_eq_ok_iff ordinary).mp scannedBody with ⟨items, accepted, rfl, rfl⟩
    have body : scanStringBody quote (items.flatMap StringItem.text ++ quote :: (rest ++ more)) =
        .ok (items.map StringItem.char, rest ++ more) :=
      (scanStringBody_eq_ok_iff ordinary).mpr ⟨items, accepted, rfl, rfl⟩
    rw [scanString, List.append_assoc, List.cons_append, body]
  · cases scanned

/-- A token with something behind it is the same whatever stands behind that. -/
theorem scanToken_append_right (scanned : scanToken c s = .ok (token, rest)) (ends : rest ≠ [])
    (more : List Char) : scanToken c (s ++ more) = .ok (token, rest ++ more) := by
  have head_eq : (s ++ more).head? = s.head? := by
    cases s with
    | nil =>
        have shorter := length_le_of_scanToken scanned
        exact absurd (List.length_eq_zero_iff.mp (Nat.le_zero.mp shorter)) ends
    | cons d others => rfl
  unfold scanToken at scanned ⊢
  rw [head_eq]
  split at scanned
  · rename_i isNumber
    rw [if_pos isNumber, ← List.cons_append]
    exact scanNumber_append_right scanned ends more
  rename_i notNumber
  rw [if_neg notNumber]
  split at scanned
  · rename_i isQuote
    rw [if_pos isQuote]
    have ordinary : c ≠ '\\' := by
      rintro rfl
      exact absurd isQuote (by decide)
    exact scanString_append_right ordinary scanned more
  rename_i notQuote
  rw [if_neg notQuote]
  split at scanned
  · rename_i isMark
    rw [if_pos isMark]
    simp only [scanDirective] at scanned ⊢
    split at scanned
    · cases scanned
    · rename_i named
      cases scanned
      rw [takeWhile_append_right ends, dropWhile_append_right ends, if_neg named]
  rename_i notMark
  rw [if_neg notMark]
  split at scanned
  · rename_i start
    rw [if_pos start]
    cases scanned
    rw [← List.cons_append, scanWord, takeWhile_append_right ends, dropWhile_append_right ends]
  rename_i notStart
  rw [if_neg notStart]
  have noNumber : c = '.' → Stops isDigit s := by
    rintro rfl d mem
    apply Bool.eq_false_iff.mpr
    intro digit
    exact notNumber (by simp [Option.mem_def.mp mem, digit])
  exact scanSymbol_append_right scanned ends noNumber more

/-! ## Whole texts -/

/-- A scanned text in front of more is scanned as its tokens, if the last one does not go on. -/
theorem scans_append_of_scanFrom {offset : Nat} {body : List Lexeme} {last : Lexeme}
    (scanned : scanFrom offset s = .ok (body ++ [last]))
    (stops : ∀ token ∈ (tokensOf body).getLast?, Stops (goesOn token) more) :
    Scans (s ++ more) (tokensOf body) more := by
  induction length : s.length using Nat.strongRecOn generalizing offset s body with
  | _ n ih =>
      rw [scanFrom] at scanned
      split at scanned
      · rename_i trimmed
        cases body with
        | nil => exact Scans.done.blank (trimStart_eq_nil_iff.mp trimmed)
        | cons t others => simp at scanned
      · rename_i c behind trimmed
        split at scanned
        · cases scanned
        · rename_i token rest scannedToken
          rcases bind_eq_ok_iff.mp scanned with ⟨lexemes, scannedRest, done⟩
          rw [← trimStart_append_leading s, trimmed, List.append_assoc, List.cons_append]
          apply Scans.blank (blank_takeWhile s)
          cases body with
          | nil =>
              cases done
              rcases exists_of_scanFrom scannedRest with ⟨others, _, impossible, _, _⟩
              simp at impossible
          | cons t others =>
              cases done
              by_cases atEnd : rest = []
              · -- The token is the last one, and it does not go on with what is added.
                subst atEnd
                rw [scanFrom_blank _ blank_nil, Except.ok.injEq] at scannedRest
                obtain rfl : others = [] := by
                  cases others with
                  | nil => rfl
                  | cons next further => simp at scannedRest
                rcases exists_writes_of_scanToken scannedToken with ⟨written, writes, split⟩
                rw [List.append_nil] at split
                rw [← List.cons_append, split]
                exact .single writes (stops token rfl)
              · have shorter : rest.length < n := by
                  have token_le := length_le_of_scanToken scannedToken
                  have trim_le := (List.dropWhile_sublist isSpace (l := s)).length_le
                  rw [← trimStart, trimmed, List.length_cons] at trim_le
                  omega
                refine .token (scanToken_append_right scannedToken atEnd more) ?_
                refine ih _ shorter scannedRest (fun token mem => stops token ?_) rfl
                cases others with
                | nil => cases mem
                | cons next further => exact mem

end Expr

end Stencil
