import Stencil.Proofs.Expr.Printable

/-!
# Printed expressions are parsed back

The printed form of an expression is scanned as tokens that the grammar derives for it, whatever
stands behind it except characters that could belong to its last token.  A derivation opens at most
two levels for each step down the tree.
-/

namespace Stencil.Expr

open Text

variable {phrase : Phrase} {limit bound keyLimit : Nat} {blocked other : Char → Bool}
  {text inner rest : List Char} {e key : Expr} {token : Token} {tokens : List Token} {calls : Bool}

/-! ## Scanning in front of a rest -/

theorem Scans.token_append {s written : List Char} (writes : WritesToken written token)
    (stops : Stops (goesOn token) s) (scans : Scans s tokens rest) :
    Scans (written ++ s) (token :: tokens) rest :=
  (Scans.single writes stops).append scans

/-- Most symbols go on with nothing. -/
theorem Scans.symbol_append {s : List Char} (symbol : Symbol)
    (whole : ∀ c, goesOn (.symbol symbol) c = false) (scans : Scans s tokens rest) :
    Scans (symbol.text.toList ++ s) (.symbol symbol :: tokens) rest :=
  scans.token_append (.symbol symbol) fun c _ => whole c

theorem Scans.space_append {s : List Char} (scans : Scans s tokens rest) :
    Scans (' ' :: s) tokens rest :=
  .space rfl scans

/-! ## Levels -/

/-- What binds tightly is an operation of less tightness as well. -/
theorem Derives.loosen {tightness tighter height : Nat} (le : tightness ≤ tighter)
    (fits : tighter ≤ 6) (derivation : Derives (.operation tighter) height tokens e) :
    Derives (.operation tightness) height tokens e := by
  induction tighter with
  | zero =>
      rcases Nat.eq_zero_of_le_zero le with rfl : tightness = 0
      exact derivation
  | succ n ih =>
      by_cases same : tightness = n + 1
      · exact same ▸ derivation
      · exact ih (by omega) (by omega) (.tighter (by omega) derivation)

/-! ## Prints -/

/-- Characters that could belong to the last token of an expression. -/
def isJoining (c : Char) : Bool :=
  Name.isContinue c || c == '.'

/-- What stands between two symbols is scanned up to the closing one. -/
theorem scans_enclosed (opening closing : Symbol)
    (wholeOpening : ∀ c, goesOn (.symbol opening) c = false)
    (wholeClosing : ∀ c, goesOn (.symbol closing) c = false)
    (apart : ∀ rest, Stops isJoining (closing.text.toList ++ rest))
    (scans : ∀ rest, Stops isJoining rest → Scans (inner ++ rest) tokens rest) (rest : List Char) :
    Scans (opening.text.toList ++ (inner ++ (closing.text.toList ++ rest)))
      (.symbol opening :: (tokens ++ [.symbol closing])) rest := by
  have close : Scans (closing.text.toList ++ rest) [.symbol closing] rest :=
    Scans.done.symbol_append closing wholeClosing
  exact ((scans _ (apart rest)).append close).symbol_append opening wholeOpening

theorem scans_parentheses (scans : ∀ rest, Stops isJoining rest → Scans (inner ++ rest) tokens rest)
    (rest : List Char) :
    Scans ('(' :: (inner ++ ')' :: rest)) (.symbol .leftParen :: (tokens ++ [.symbol .rightParen]))
      rest :=
  scans_enclosed .leftParen .rightParen (fun _ => rfl) (fun _ => rfl)
    (fun _ => stops_cons (by decide) _) scans rest

theorem scans_brackets (scans : ∀ rest, Stops isJoining rest → Scans (inner ++ rest) tokens rest)
    (rest : List Char) :
    Scans ('[' :: (inner ++ ']' :: rest))
      (.symbol .leftBracket :: (tokens ++ [.symbol .rightBracket])) rest :=
  scans_enclosed .leftBracket .rightBracket (fun _ => rfl) (fun _ => rfl)
    (fun _ => stops_cons (by decide) _) scans rest

/-- A text is a print of an expression as a phrase: whatever follows it, except certain characters,
it is scanned as tokens that spell the expression, with at most so many levels open at once. -/
def Prints (phrase : Phrase) (limit : Nat) (blocked : Char → Bool) (text : List Char) (e : Expr) :
    Prop :=
  ∃ height tokens, height ≤ limit ∧ Derives phrase height tokens e ∧
    ∀ rest, Stops blocked rest → Scans (text ++ rest) tokens rest

theorem Prints.mono (prints : Prints phrase limit blocked text e) (le : limit ≤ bound)
    (wider : ∀ c, other c = false → blocked c = false) : Prints phrase bound other text e := by
  rcases prints with ⟨height, tokens, fits, derivation, scans⟩
  exact ⟨height, tokens, Nat.le_trans fits le, derivation, fun rest stops =>
    scans rest fun c mem => wider c (stops c mem)⟩

theorem Prints.asJoining (prints : Prints phrase limit Name.isContinue text e) :
    Prints phrase limit isJoining text e :=
  prints.mono (Nat.le_refl limit) fun _ free => (Bool.or_eq_false_iff.mp free).1

theorem Prints.operation (prints : Prints (.chain true) limit blocked text e) :
    Prints (.operation 6) limit blocked text e := by
  rcases prints with ⟨height, tokens, fits, derivation, scans⟩
  exact ⟨height, tokens, fits, .operand (.chain derivation), scans⟩

theorem Prints.expression (prints : Prints (.operation 6) limit blocked text e) :
    Prints .conditional (limit + 1) blocked text e := by
  rcases prints with ⟨height, tokens, fits, derivation, scans⟩
  exact ⟨height + 1, tokens, Nat.succ_le_succ fits,
    .test (derivation.loosen (Nat.zero_le 6) (Nat.le_refl 6)), scans⟩

theorem prints_atom (writes : WritesToken text token) (atom : IsAtom token e)
    (wider : ∀ c, blocked c = false → goesOn token c = false) :
    Prints (.chain calls) limit blocked text e :=
  ⟨0, [token], Nat.zero_le limit, .primary (.atom atom), fun _ stops =>
    Scans.single writes fun c mem => wider c (stops c mem)⟩

/-- In parentheses anything may follow. -/
theorem Prints.parentheses (prints : Prints .conditional limit isJoining inner e) :
    Prints (.chain calls) limit blocked ('(' :: (inner ++ [')'])) e := by
  rcases prints with ⟨height, tokens, fits, derivation, scans⟩
  refine ⟨height, _, fits, .primary (.parentheses derivation), fun rest _ => ?_⟩
  simpa using scans_parentheses scans rest

theorem Prints.member {object : Expr} {property : String}
    (prints : Prints (.chain calls) limit Name.isContinue text object)
    (isName : Name.isName property.toList = true) :
    Prints (.chain calls) limit Name.isContinue (text ++ '.' :: property.toList)
      (.member object property) := by
  rcases prints with ⟨height, tokens, fits, derivation, scans⟩
  refine ⟨height, _, fits, .member derivation (isProperty_ofWord property), fun rest stops => ?_⟩
  have writes := WritesToken.word isName
  rw [String.ofList_toList] at writes
  have word : Scans (property.toList ++ rest) [.ofWord property] rest := by
    refine Scans.single writes ?_
    rwa [goesOn_ofWord]
  have noDigit : Stops isDigit (property.toList ++ rest) := by
    generalize property.toList = word at isName
    cases word with
    | nil => cases isName
    | cons c more =>
        rw [Name.isName, Bool.and_eq_true] at isName
        exact stops_cons (isDigit_of_isStart isName.1) _
  have dot : Scans ('.' :: (property.toList ++ rest)) [.symbol .dot, .ofWord property] rest :=
    word.token_append (.symbol .dot) noDigit
  rw [List.append_assoc, List.cons_append]
  exact (scans _ (stops_cons (by decide) _)).append dot

theorem Prints.index {object : Expr} (prints : Prints (.chain calls) limit isJoining text object)
    (printsKey : Prints .conditional keyLimit isJoining inner key) :
    Prints (.chain calls) (max limit keyLimit) blocked (text ++ '[' :: (inner ++ [']']))
      (.index object key) := by
  rcases prints with ⟨height, tokens, fits, derivation, scans⟩
  rcases printsKey with ⟨keyHeight, keyTokens, keyFits, keyDerivation, keyScans⟩
  refine ⟨_, _, max_le_max fits keyFits, .index derivation keyDerivation, fun rest _ => ?_⟩
  have whole := (scans _ (stops_cons (by decide) _)).append (scans_brackets keyScans rest)
  simpa using whole

/-! ## Lists -/

theorem prints_noItems : Prints .items limit blocked [] (.array []) :=
  ⟨0, [], Nat.zero_le limit, .noItems, fun _ _ => .done⟩

theorem Prints.lastItem (prints : Prints .conditional limit blocked text e) :
    Prints .items limit blocked text (.array [e]) := by
  rcases prints with ⟨height, tokens, fits, derivation, scans⟩
  exact ⟨height, tokens, fits, .lastItem derivation, scans⟩

theorem Prints.moreItems {others : List Char} {items : List Expr}
    (prints : Prints .conditional limit isJoining text e)
    (printsOthers : Prints .items bound blocked others (.array items)) :
    Prints .items (max limit bound) blocked (text ++ ',' :: ' ' :: others)
      (.array (e :: items)) := by
  rcases prints with ⟨height, tokens, fits, derivation, scans⟩
  rcases printsOthers with ⟨otherHeight, otherTokens, otherFits, otherDerivation, otherScans⟩
  refine ⟨_, _, max_le_max fits otherFits, .moreItems derivation otherDerivation,
    fun rest stops => ?_⟩
  have comma : Scans (',' :: ' ' :: (others ++ rest)) _ rest :=
    (otherScans rest stops).space_append.symbol_append .comma fun _ => rfl
  have whole := (scans _ (stops_cons (by decide) _)).append comma
  simpa using whole

theorem Prints.array {items : List Expr}
    (prints : Prints .items limit isJoining inner (.array items)) :
    Prints (.chain calls) (limit + 1) blocked ('[' :: (inner ++ [']'])) (.array items) := by
  rcases prints with ⟨height, tokens, fits, derivation, scans⟩
  refine ⟨_, _, Nat.succ_le_succ fits, .primary (.array derivation), fun rest _ => ?_⟩
  simpa using scans_brackets scans rest

theorem Prints.call {callee : Expr} {args : List Expr}
    (prints : Prints (.chain true) limit isJoining text callee)
    (printsArgs : Prints .items bound isJoining inner (.array args)) :
    Prints (.chain true) (max limit bound) blocked (text ++ '(' :: (inner ++ [')']))
      (.call callee args) := by
  rcases prints with ⟨height, tokens, fits, derivation, scans⟩
  rcases printsArgs with ⟨argsHeight, argsTokens, argsFits, argsDerivation, argsScans⟩
  refine ⟨_, _, max_le_max fits argsFits, .call derivation argsDerivation, fun rest _ => ?_⟩
  have whole := (scans _ (stops_cons (by decide) _)).append (scans_parentheses argsScans rest)
  simpa using whole

theorem Prints.new {target : Expr} {args : List Expr}
    (prints : Prints (.chain false) limit isJoining text target)
    (printsArgs : Prints .items bound isJoining inner (.array args)) :
    Prints (.chain calls) (max limit bound + 1) blocked
      ('n' :: 'e' :: 'w' :: ' ' :: (text ++ '(' :: (inner ++ [')']))) (.new target args) := by
  rcases prints with ⟨height, tokens, fits, derivation, scans⟩
  rcases printsArgs with ⟨argsHeight, argsTokens, argsFits, argsDerivation, argsScans⟩
  refine ⟨_, _, Nat.succ_le_succ (max_le_max fits argsFits), .newWith derivation argsDerivation,
    fun rest _ => ?_⟩
  have body := (scans _ (stops_cons (by decide) _)).append (scans_parentheses argsScans rest)
  have whole := body.space_append.token_append (writes_keyword .new) (stops_cons (by decide) _)
  simpa [Keyword.text] using whole

/-! ## Operators -/

/-- A text that does not begin with an equals sign. -/
def Opens (text : List Char) : Prop :=
  ∃ c more, text = c :: more ∧ c ≠ '='

theorem Prints.unary (prints : Prints (.operation 6) limit blocked text e) (opens : Opens text)
    (op : UnaryOp) :
    Prints (.operation 6) (limit + 1) blocked (op.text.toList ++ text) (.unary op e) := by
  rcases prints with ⟨height, tokens, fits, derivation, scans⟩
  refine ⟨_, _, Nat.succ_le_succ fits, .unary op derivation, fun rest stops => ?_⟩
  have operand := scans rest stops
  have noEquals : Stops (· == '=') (text ++ rest) := by
    rcases opens with ⟨c, more, rfl, differs⟩
    rw [List.cons_append]
    exact stops_cons (by simpa using differs) _
  rw [List.append_assoc]
  cases op with
  | not => exact operand.token_append (.symbol .not) noEquals
  | neg => exact operand.symbol_append .minus fun _ => rfl
  | plus => exact operand.symbol_append .plus fun _ => rfl
  | typeof =>
      have whole : Scans (Keyword.typeof.text.toList ++ ' ' :: (text ++ rest)) _ rest :=
        operand.space_append.token_append (writes_keyword .typeof) (stops_cons (by decide) _)
      exact whole

/-- An operator between operands is written as a symbol or a keyword. -/
theorem BinaryOp.spelling_cases (op : BinaryOp) :
    (∃ symbol, op.token = .symbol symbol ∧ op.text = symbol.text) ∨
      ∃ k, op.token = .keyword k ∧ op.text = k.text := by
  cases op with
  | instanceof | «in» => exact .inr ⟨_, rfl, rfl⟩
  | _ => exact .inl ⟨_, rfl, rfl⟩

theorem writes_binaryOp (op : BinaryOp) : WritesToken op.text.toList op.token := by
  rcases BinaryOp.spelling_cases op with ⟨symbol, token_eq, text_eq⟩ | ⟨k, token_eq, text_eq⟩
  · rw [token_eq, text_eq]
    exact .symbol symbol
  · rw [token_eq, text_eq]
    exact writes_keyword k

theorem Prints.binary {left right : Expr} {others : List Char}
    (prints : Prints (.operation 6) limit isJoining text left)
    (printsRight : Prints (.operation 6) bound blocked others right) (op : BinaryOp) :
    Prints .conditional (max limit bound + 1) blocked
      (text ++ ' ' :: (op.text.toList ++ ' ' :: others)) (.binary op left right) := by
  rcases prints with ⟨height, tokens, fits, derivation, scans⟩
  rcases printsRight with ⟨otherHeight, otherTokens, otherFits, otherDerivation, otherScans⟩
  have low := BinaryOp.tightness_lt op
  have operation := Derives.binary op (derivation.loosen (Nat.le_of_lt low) (Nat.le_refl 6))
    (otherDerivation.loosen low (Nat.le_refl 6))
  refine ⟨_, _, Nat.succ_le_succ (max_le_max fits otherFits),
    .test (operation.loosen (Nat.zero_le _) (Nat.le_of_lt low)), fun rest stops => ?_⟩
  have operand := (otherScans rest stops).space_append
  have behind := (operand.token_append (writes_binaryOp op)
    (stops_cons (goesOn_of_isSpace op.token rfl) _)).space_append
  have whole := (scans _ (stops_cons (by decide) _)).append behind
  simpa using whole

theorem Prints.conditional {test consequent alternate : Expr} {yes no : List Char}
    {yesLimit noLimit : Nat}
    (prints : Prints (.operation 6) limit isJoining text test)
    (printsYes : Prints .conditional yesLimit isJoining yes consequent)
    (printsNo : Prints .conditional noLimit blocked no alternate) :
    Prints .conditional (max limit (max yesLimit noLimit) + 1) blocked
      (text ++ ' ' :: '?' :: ' ' :: (yes ++ ' ' :: ':' :: ' ' :: no))
      (.conditional test consequent alternate) := by
  rcases prints with ⟨height, tokens, fits, derivation, scans⟩
  rcases printsYes with ⟨yesHeight, yesTokens, yesFits, yesDerivation, yesScans⟩
  rcases printsNo with ⟨noHeight, noTokens, noFits, noDerivation, noScans⟩
  refine ⟨_, _, Nat.succ_le_succ (max_le_max fits (max_le_max yesFits noFits)),
    .conditional (derivation.loosen (Nat.zero_le 6) (Nat.le_refl 6)) yesDerivation noDerivation,
    fun rest stops => ?_⟩
  have colon : Scans (' ' :: ':' :: ' ' :: (no ++ rest)) _ rest :=
    ((noScans rest stops).space_append.symbol_append .colon fun _ => rfl).space_append
  have behindYes := (yesScans _ (stops_cons (by decide) _)).append colon
  have question : Scans (' ' :: '?' :: ' ' :: (yes ++ ' ' :: ':' :: ' ' :: (no ++ rest))) _ rest :=
    (behindYes.space_append.symbol_append .question fun _ => rfl).space_append
  have whole := (scans _ (stops_cons (by decide) _)).append question
  simpa using whole

/-! ## Printed forms -/

theorem Opens.append (opens : Opens text) (more : List Char) : Opens (text ++ more) := by
  rcases opens with ⟨c, others, rfl, differs⟩
  exact ⟨c, others ++ more, rfl, differs⟩

theorem opens_of_isName (isName : Name.isName text = true) : Opens text := by
  cases text with
  | nil => cases isName
  | cons c more =>
      rw [Name.isName, Bool.and_eq_true] at isName
      refine ⟨c, more, rfl, ?_⟩
      rintro rfl
      exact absurd isName.1 (by decide)

theorem opens_of_writes (writes : WritesToken text token) (atom : IsAtom token e) : Opens text := by
  cases writes with
  | number writes =>
      rcases writes.exists_cons with ⟨c, more, rfl, begins⟩
      refine ⟨c, more, rfl, ?_⟩
      rintro rfl
      rcases begins with digit | ⟨isPoint, -⟩
      · exact absurd digit (by decide)
      · exact absurd isPoint (by decide)
  | string isQuote _ =>
      refine ⟨_, _, rfl, ?_⟩
      rintro rfl
      exact absurd isQuote (by decide)
  | directive _ _ => exact ⟨_, _, rfl, by decide⟩
  | word isName => exact opens_of_isName isName
  | symbol symbol => exact absurd rfl (atom.ne_symbol symbol)

theorem opens_text : (e : Expr) → e.isUnambiguous = true → Opens e.text.toList
  | literal value, unambiguous => by
      rcases exists_writes_literal unambiguous with ⟨token, writes, atom⟩
      exact opens_of_writes writes atom
  | var name, unambiguous => by
      rcases writes_var unambiguous with ⟨writes, atom⟩
      exact opens_of_writes writes atom
  | loopIndex, _ => opens_of_writes writes_loopIndex .loopIndex
  | this, _ => opens_of_writes (writes_keyword .this) .this
  | array items, _ => by
      simp only [Expr.text, String.toList_append]
      exact ⟨_, _, rfl, by decide⟩
  | member object property, unambiguous => by
      simp only [isUnambiguous, Bool.and_eq_true] at unambiguous
      simp only [Expr.text, String.toList_append, List.append_assoc]
      exact (opens_text object unambiguous.1.1.1).append _
  | index object key, unambiguous => by
      simp only [isUnambiguous, Bool.and_eq_true] at unambiguous
      simp only [Expr.text, String.toList_append, List.append_assoc]
      exact (opens_text object unambiguous.1.1).append _
  | call callee args, unambiguous => by
      simp only [isUnambiguous, Bool.and_eq_true] at unambiguous
      simp only [Expr.text, String.toList_append, List.append_assoc]
      exact (opens_text callee unambiguous.1.1).append _
  | new target args, _ => by
      simp only [Expr.text, String.toList_append, List.append_assoc]
      exact ⟨_, _, rfl, by decide⟩
  | unary op operand, _ => by
      simp only [Expr.text, String.toList_append]
      cases op <;> exact ⟨_, _, rfl, by decide⟩
  | binary op left right, _ => by
      simp only [Expr.text, String.toList_append, List.append_assoc]
      exact ⟨_, _, rfl, by decide⟩
  | conditional test consequent alternate, _ => by
      simp only [Expr.text, String.toList_append, List.append_assoc]
      exact ⟨_, _, rfl, by decide⟩

/-- The phrase as which an expression is printed. -/
def printedAs (e : Expr) : Phrase :=
  if e.isUnary then .operation 6 else .chain true

/-- Characters that cannot stand behind the print of an expression. -/
def joining (e : Expr) : Char → Bool :=
  if e.isUnary || e.isNumber then isJoining else Name.isContinue

theorem joining_of_isJoining {c : Char} (free : isJoining c = false) (e : Expr) :
    e.joining c = false := by
  rw [joining]
  split
  · exact free
  · exact (Bool.or_eq_false_iff.mp free).1

theorem Prints.asOperation (prints : Prints e.printedAs limit e.joining text e) :
    Prints (.operation 6) limit isJoining text e := by
  have prints := prints.mono (Nat.le_refl limit) fun c free => joining_of_isJoining free e
  rw [printedAs] at prints
  split at prints
  · exact prints
  · exact prints.operation

theorem Prints.asExpression (prints : Prints e.printedAs limit e.joining text e) :
    Prints .conditional (limit + 1) isJoining text e :=
  prints.asOperation.expression

theorem Prints.asObject (prints : Prints e.printedAs limit e.joining text e)
    (notUnary : e.isUnary = false) : Prints (.chain true) limit isJoining text e := by
  have prints := prints.mono (Nat.le_refl limit) fun c free => joining_of_isJoining free e
  rwa [printedAs, notUnary] at prints

theorem Prints.asNamed (prints : Prints e.printedAs limit e.joining text e)
    (notUnary : e.isUnary = false) (notNumber : e.isNumber = false) :
    Prints (.chain true) limit Name.isContinue text e := by
  rwa [printedAs, joining, notUnary, notNumber] at prints

mutual

/-- The printed form of an expression is a print of it. -/
theorem prints_text :
    (e : Expr) → e.isUnambiguous = true →
      Prints e.printedAs (2 * e.height + 1) e.joining e.text.toList e
  | literal value, unambiguous => by
      rcases exists_writes_literal unambiguous with ⟨token, writes, atom⟩
      refine prints_atom writes atom fun c free => ?_
      cases atom with
      | number n => exact free
      | string s => rfl
      | _ => exact free
  | var name, unambiguous => by
      rcases writes_var unambiguous with ⟨writes, atom⟩
      exact prints_atom writes atom fun c free => free
  | loopIndex, _ => prints_atom writes_loopIndex .loopIndex fun c free => free
  | this, _ => prints_atom (writes_keyword .this) .this fun c free => free
  | array items, unambiguous => by
      have prints : Prints (.chain true) _ Name.isContinue _ (array items) :=
        (prints_texts items unambiguous).array
      simp only [Expr.text, String.toList_append]
      exact prints
  | member object property, unambiguous => by
      simp only [isUnambiguous, Bool.and_eq_true, Bool.not_eq_true'] at unambiguous
      rcases unambiguous with ⟨⟨⟨unambiguous, notUnary⟩, notNumber⟩, isName⟩
      have printsObject := (prints_text object unambiguous).asNamed notUnary notNumber
      simp only [Expr.text, String.toList_append, List.append_assoc]
      exact (printsObject.member isName).mono (by simp only [height]; omega) fun c free => free
  | index object key, unambiguous => by
      simp only [isUnambiguous, Bool.and_eq_true, Bool.not_eq_true'] at unambiguous
      rcases unambiguous with ⟨⟨unambiguous, notUnary⟩, keyUnambiguous⟩
      have printsObject := (prints_text object unambiguous).asObject notUnary
      have printsKey := (prints_text key keyUnambiguous).asExpression
      have prints : Prints (.chain true) _ Name.isContinue _ _ := printsObject.index printsKey
      simp only [Expr.text, String.toList_append, List.append_assoc]
      exact prints.mono (by simp only [height]; omega) fun c free => free
  | call callee args, unambiguous => by
      simp only [isUnambiguous, Bool.and_eq_true, Bool.not_eq_true'] at unambiguous
      rcases unambiguous with ⟨⟨unambiguous, notUnary⟩, argsUnambiguous⟩
      have printsCallee := (prints_text callee unambiguous).asObject notUnary
      have prints : Prints (.chain true) _ Name.isContinue _ _ :=
        printsCallee.call (prints_texts args argsUnambiguous)
      simp only [Expr.text, String.toList_append, List.append_assoc]
      exact prints.mono (by simp only [height]; omega) fun c free => free
  | new target args, unambiguous => by
      simp only [isUnambiguous, Bool.and_eq_true] at unambiguous
      rcases unambiguous with ⟨isTarget, argsUnambiguous⟩
      have printsTarget := (prints_target target isTarget).asJoining
      have prints : Prints (.chain true) _ Name.isContinue _ _ :=
        printsTarget.new (prints_texts args argsUnambiguous)
      simp only [Expr.text, String.toList_append, List.append_assoc]
      exact prints.mono (by simp only [height]; omega) fun c free => free
  | unary op operand, unambiguous => by
      have prints := (prints_text operand unambiguous).asOperation.unary
        (opens_text operand unambiguous) op
      simp only [Expr.text, String.toList_append]
      exact prints.mono (by simp only [height]; omega) fun c free => free
  | binary op left right, unambiguous => by
      simp only [isUnambiguous, Bool.and_eq_true] at unambiguous
      have inner := (prints_text left unambiguous.1).asOperation.binary
        (prints_text right unambiguous.2).asOperation op
      have prints : Prints (.chain true) _ Name.isContinue _ _ := inner.parentheses
      simp only [Expr.text, String.toList_append, List.append_assoc]
      simp only [List.append_assoc, List.cons_append] at prints
      exact prints.mono (by simp only [height]; omega) fun c free => free
  | conditional test consequent alternate, unambiguous => by
      simp only [isUnambiguous, Bool.and_eq_true] at unambiguous
      rcases unambiguous with ⟨⟨testUnambiguous, yesUnambiguous⟩, noUnambiguous⟩
      have inner := (prints_text test testUnambiguous).asOperation.conditional
        (prints_text consequent yesUnambiguous).asExpression
        (prints_text alternate noUnambiguous).asExpression
      have prints : Prints (.chain true) _ Name.isContinue _ _ := inner.parentheses
      simp only [Expr.text, String.toList_append, List.append_assoc]
      simp only [List.append_assoc, List.cons_append] at prints
      exact prints.mono (by simp only [height]; omega) fun c free => free

theorem prints_target :
    (e : Expr) → e.isTarget = true →
      Prints (.chain false) (2 * e.height + 1) Name.isContinue e.text.toList e
  | var name, isTarget => by
      rcases writes_var isTarget with ⟨writes, atom⟩
      exact prints_atom writes atom fun c free => free
  | member object property, isTarget => by
      simp only [Expr.isTarget, Bool.and_eq_true] at isTarget
      simp only [Expr.text, String.toList_append, List.append_assoc]
      exact ((prints_target object isTarget.1).member isTarget.2).mono
        (by simp only [height]; omega) fun c free => free
  | index object key, isTarget => by
      simp only [Expr.isTarget, Bool.and_eq_true] at isTarget
      have prints : Prints (.chain false) _ Name.isContinue _ _ :=
        (prints_target object isTarget.1).asJoining.index (prints_text key isTarget.2).asExpression
      simp only [Expr.text, String.toList_append, List.append_assoc]
      exact prints.mono (by simp only [height]; omega) fun c free => free

theorem prints_texts :
    (items : List Expr) → areUnambiguous items = true →
      Prints .items (2 * heightOver items) isJoining (", ".intercalate (texts items)).toList
        (.array items)
  | [], _ => prints_noItems
  | [item], unambiguous => by
      simp only [areUnambiguous, Bool.and_true] at unambiguous
      have prints := (prints_text item unambiguous).asExpression.lastItem
      have text_eq : (", ".intercalate (texts [item])).toList = item.text.toList := by
        simp [texts]
      rw [text_eq]
      exact prints.mono (by simp only [heightOver]; omega) fun c free => free
  | item :: next :: others, unambiguous => by
      rw [areUnambiguous, Bool.and_eq_true] at unambiguous
      have prints := (prints_text item unambiguous.1).asExpression.moreItems
        (prints_texts (next :: others) unambiguous.2)
      have text_eq : (", ".intercalate (texts (item :: next :: others))).toList =
          item.text.toList ++ ',' :: ' ' :: (", ".intercalate (texts (next :: others))).toList := by
        simp [texts]
      rw [text_eq]
      exact prints.mono (by simp only [heightOver]; omega) fun c free => free

end

/-! ## Parsing what is printed -/

/-- A text that is scanned up to its end as derived tokens is parsed if they have few enough levels,
and else refused for having too many. -/
theorem parse_of_prints {source : String}
    (prints : Prints .conditional limit blocked source.toList e) :
    (parse source = .ok e ∨ ∃ offset, parse source = .error ⟨offset, .tooDeep⟩) ∧
      (limit ≤ levelLimit → parse source = .ok e) := by
  rcases prints with ⟨height, tokens, fits, derivation, scans⟩
  have scans := scans [] stops_nil
  rw [List.append_nil] at scans
  rcases scans.exists_scanFrom 0 with ⟨lexemes, scanned, spelled⟩
  rcases List.map_eq_append_iff.mp spelled with ⟨body, ends, rfl, rfl, atEnd⟩
  rcases List.map_eq_singleton_iff.mp atEnd with ⟨last, rfl, isStop⟩
  have parse_eq : parse source = ofLexemes (body ++ [last]) := by
    rw [parse, scan, scanned, ok_bind]
  rw [parse_eq]
  rcases ofLexemes_of_derives isStop derivation with ⟨_, parsed⟩ | ⟨tooHigh, offset, refused⟩
  · exact ⟨.inl parsed, fun _ => parsed⟩
  · exact ⟨.inr ⟨offset, refused⟩,
      fun few => absurd (Nat.le_trans fits few) (Nat.not_le_of_lt tooHigh)⟩

/-- An expression that is printed without ambiguity is what its printed form is parsed as, unless
this has too many levels.  Up to height 60 it has not. -/
theorem parse_text {e : Expr} (unambiguous : e.isUnambiguous = true) :
    (parse e.text = .ok e ∨
        ∃ fault, parse e.text = .error fault ∧
          fault.item.message = "Expression nested too deeply") ∧
      (e.height ≤ 60 → parse e.text = .ok e) := by
  rcases parse_of_prints (prints_text e unambiguous).asExpression with
    ⟨parsed | ⟨offset, refused⟩, few⟩
  · exact ⟨.inl parsed, fun _ => parsed⟩
  · refine ⟨.inr ⟨_, refused, rfl⟩, fun low => few ?_⟩
    rw [levelLimit]
    omega

/-- A call of a construction whose target ends in a reserved word. -/
theorem parse_text_new :
    isUnambiguous (.unary .not (.index (.call (.new (.member (.var "a") "new") []) [.loopIndex])
        (.literal (.number (Binary64.ofNat 2))))) = true ∧
      parse "!new a.new()(@index)[2]" =
        .ok (.unary .not (.index (.call (.new (.member (.var "a") "new") []) [.loopIndex])
          (.literal (.number (Binary64.ofNat 2))))) := by
  have unambiguous : isUnambiguous (.unary .not (.index
      (.call (.new (.member (.var "a") "new") []) [.loopIndex])
      (.literal (.number (Binary64.ofNat 2))))) = true := by
    decide +kernel
  have text_eq : Expr.text (.unary .not (.index
      (.call (.new (.member (.var "a") "new") []) [.loopIndex])
      (.literal (.number (Binary64.ofNat 2))))) = "!new a.new()(@index)[2]" := by
    decide +kernel
  have parsed := (parse_text unambiguous).2 (by decide)
  rw [text_eq] at parsed
  exact ⟨unambiguous, parsed⟩

end Stencil.Expr
