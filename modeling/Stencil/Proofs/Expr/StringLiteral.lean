import Stencil.Expr.Lexeme

/-!
# The grammar of string literals

Between its quotes a string literal is a sequence of items, each of which stands for one character:
a character itself, a backslash in front of a character, or a code point of four hexadecimal digits.
The scanner takes these literals, and besides them those in which a plus sign stands in the place of
the first digit of a code point.
-/

namespace Stencil.Expr

open Text

/-- A part of a string literal. -/
inductive StringItem where
  | plain (c : Char)
  | escape (c : Char)
  | code (x₁ x₂ x₃ x₄ : Char)

namespace StringItem

/-- The written form of an item. -/
def text : StringItem → List Char
  | plain c => [c]
  | escape c => ['\\', c]
  | code x₁ x₂ x₃ x₄ => ['\\', 'u', x₁, x₂, x₃, x₄]

/-- The letters that stand for control characters behind a backslash. -/
def controls : List (Char × Char) :=
  [('n', '\n'), ('t', '\t'), ('r', '\r'), ('b', '\x08'), ('f', '\x0c'), ('v', '\x0b'),
    ('0', '\x00')]

/-- The character of a code point of sixteen bits; a surrogate has none of its own. -/
def ofCode (code : Nat) : Char :=
  if isHighSurrogate code || isLowSurrogate code then '\uFFFD' else Char.ofNat code

/-- The character that an item stands for. -/
def char : StringItem → Char
  | plain c => c
  | escape c => (controls.lookup c).getD c
  | code x₁ x₂ x₃ x₄ => ofCode (ofDigits 16 [x₁, x₂, x₃, x₄])

/-- The items of a literal between quotes of one kind. -/
inductive IsWellFormed (quote : Char) : StringItem → Prop where
  | plain {c : Char} : c ≠ quote → c ≠ '\\' → IsWellFormed quote (plain c)
  | escape {c : Char} : c ≠ 'u' → IsWellFormed quote (escape c)
  | code {x₁ x₂ x₃ x₄ : Char} :
      (∀ x ∈ [x₁, x₂, x₃, x₄], isHexDigit x = true) → IsWellFormed quote (code x₁ x₂ x₃ x₄)

/-- Code points with a plus sign in the place of their first digit. -/
inductive IsSigned : StringItem → Prop where
  | code {x₂ x₃ x₄ : Char} :
      (∀ x ∈ [x₂, x₃, x₄], isHexDigit x = true) → IsSigned (code '+' x₂ x₃ x₄)

/-- The items that the scanner takes. -/
def IsAccepted (quote : Char) (item : StringItem) : Prop :=
  item.IsWellFormed quote ∨ item.IsSigned

end StringItem

open StringItem

/-! ## Escapes -/

theorem escapedChar_eq (c : Char) : escapedChar c = (escape c).char := by
  by_cases control : c ∈ controls.map Prod.fst
  · simp only [controls, List.map_cons, List.map_nil, List.mem_cons, List.not_mem_nil, or_false]
      at control
    rcases control with rfl | rfl | rfl | rfl | rfl | rfl | rfl <;> rfl
  · simp only [controls, List.map_cons, List.map_nil, List.mem_cons, List.not_mem_nil, or_false,
      not_or] at control
    simp [escapedChar, char, controls, List.lookup_cons, control, beq_false_of_ne]

theorem digitValue?_lt_of_isHexDigit {c : Char} (hex : isHexDigit c = true) :
    (digitValue? c).getD 0 < 16 := by
  rcases Option.isSome_iff_exists.mp hex with ⟨d, value⟩
  rcases Option.filter_eq_some_iff.mp value with ⟨value, small⟩
  rw [value, Option.getD_some]
  exact of_decide_eq_true small

/-- Below `2 ^ 16` the code points without a character are the surrogates. -/
theorem ofCode_eq {code : Nat} (small : code < 65536) :
    (if code.isValidChar then Char.ofNat code else '\uFFFD') = ofCode code := by
  have surrogate : code.isValidChar ↔ ¬ (isHighSurrogate code || isLowSurrogate code) = true := by
    simp only [Nat.isValidChar, isHighSurrogate, isLowSurrogate, Bool.or_eq_true, Bool.and_eq_true,
      decide_eq_true_eq]
    omega
  simp only [ofCode, surrogate, ite_not]

theorem isAccepted_code_iff {quote x₁ x₂ x₃ x₄ : Char} :
    (code x₁ x₂ x₃ x₄).IsAccepted quote ↔
      (x₁ = '+' ∨ isHexDigit x₁ = true) ∧ ∀ x ∈ [x₂, x₃, x₄], isHexDigit x = true := by
  constructor
  · rintro (wellFormed | signed)
    · cases wellFormed with
      | code hex =>
        exact ⟨.inr (hex x₁ (by simp)), fun x mem => hex x (List.mem_cons_of_mem x₁ mem)⟩
    · cases signed with
      | code hex => exact ⟨.inl rfl, hex⟩
  · rintro ⟨rfl | first, others⟩
    · exact .inr (.code others)
    · exact .inl (.code (List.forall_mem_cons.mpr ⟨first, others⟩))

/-- A plus sign counts as a zero. -/
theorem char_code_lt {x₁ x₂ x₃ x₄ : Char} (first : x₁ = '+' ∨ isHexDigit x₁ = true)
    (others : ∀ x ∈ [x₂, x₃, x₄], isHexDigit x = true) : ofDigits 16 [x₁, x₂, x₃, x₄] < 65536 := by
  have firstValue : (digitValue? x₁).getD 0 < 16 := by
    rcases first with rfl | hex
    · decide
    · exact digitValue?_lt_of_isHexDigit hex
  have second := digitValue?_lt_of_isHexDigit (others x₂ (by simp))
  have third := digitValue?_lt_of_isHexDigit (others x₃ (by simp))
  have fourth := digitValue?_lt_of_isHexDigit (others x₄ (by simp))
  simp only [ofDigits, List.foldl_cons, List.foldl_nil]
  omega

/-- The scanner reads a code point from the items that it takes and from no others. -/
theorem unicodeEscape?_eq_some_iff {x₁ x₂ x₃ x₄ c : Char} (quote : Char) :
    unicodeEscape? [x₁, x₂, x₃, x₄] = some c ↔
      (code x₁ x₂ x₃ x₄).IsAccepted quote ∧ c = (code x₁ x₂ x₃ x₄).char := by
  have read : unicodeEscape? [x₁, x₂, x₃, x₄] =
      if (x₁ = '+' ∨ isHexDigit x₁ = true) ∧ ∀ x ∈ [x₂, x₃, x₄], isHexDigit x = true then
        some (if (ofDigits 16 [x₁, x₂, x₃, x₄]).isValidChar then
          Char.ofNat (ofDigits 16 [x₁, x₂, x₃, x₄]) else '\uFFFD')
      else none := by
    by_cases plus : x₁ = '+'
    · subst plus
      simp [unicodeEscape?, ofDigits, show digitValue? '+' = none from rfl]
    · simp [unicodeEscape?, plus]
  rw [read, isAccepted_code_iff]
  split
  · rename_i accepted
    rw [ofCode_eq (char_code_lt accepted.1 accepted.2), Option.some_inj]
    exact ⟨fun same => ⟨accepted, same.symm⟩, fun ⟨_, same⟩ => same.symm⟩
  · rename_i refused
    exact ⟨nofun, fun ⟨accepted, _⟩ => absurd accepted refused⟩

/-! ## Bodies -/

variable {quote : Char}

/-- An item at the front of a body is its first character. -/
theorem scanStringBody_item (ordinary : quote ≠ '\\') {item : StringItem}
    (accepted : item.IsAccepted quote) (more : List Char) :
    scanStringBody quote (item.text ++ more) = withChar item.char (scanStringBody quote more) := by
  rw [scanStringBody.eq_def]
  cases item with
  | plain c =>
      rcases accepted with ⟨notQuote, notBackslash⟩ | signed
      · simp only [text, List.cons_append, List.nil_append, if_neg notQuote, if_neg notBackslash]
        rfl
      · cases signed
  | escape c =>
      rcases accepted with notMark | signed
      · cases notMark with
        | escape notMark =>
            simp only [text, List.cons_append, List.nil_append, if_neg ordinary.symm, if_true]
            split
            case h_4 same =>
              cases same
              rw [escapedChar_eq]
            all_goals simp_all
      · cases signed
  | code x₁ x₂ x₃ x₄ =>
      have read := (unicodeEscape?_eq_some_iff quote).mpr ⟨accepted, rfl⟩
      simp only [text, List.cons_append, List.nil_append, if_neg ordinary.symm, if_true, read]

theorem scanStringBody_items (ordinary : quote ≠ '\\') {items : List StringItem}
    (accepted : ∀ item ∈ items, item.IsAccepted quote) (more : List Char) :
    scanStringBody quote (items.flatMap StringItem.text ++ more) =
      (scanStringBody quote more).map
        fun (body, rest) => (items.map StringItem.char ++ body, rest) := by
  induction items with
  | nil =>
      simp only [List.flatMap_nil, List.nil_append, List.map_nil]
      cases scanStringBody quote more <;> rfl
  | cons item others ih =>
      rcases List.forall_mem_cons.mp accepted with ⟨first, rest⟩
      rw [List.flatMap_cons, List.append_assoc, scanStringBody_item ordinary first, ih rest,
        withChar]
      cases scanStringBody quote more <;> rfl

/-- A body is made of items up to its closing quote. -/
def IsBody (quote : Char) (s body rest : List Char) : Prop :=
  ∃ items : List StringItem, (∀ item ∈ items, item.IsAccepted quote) ∧
    s = items.flatMap StringItem.text ++ quote :: rest ∧ body = items.map StringItem.char

theorem IsBody.cons {s body rest : List Char} (isBody : IsBody quote s body rest)
    {item : StringItem} (accepted : item.IsAccepted quote) :
    IsBody quote (item.text ++ s) (item.char :: body) rest := by
  rcases isBody with ⟨items, others, rfl, rfl⟩
  refine ⟨item :: items, List.forall_mem_cons.mpr ⟨accepted, others⟩, ?_, rfl⟩
  rw [List.flatMap_cons, List.append_assoc]

/-- The scanner takes bodies made of items and stops behind their closing quotes. -/
theorem scanStringBody_eq_ok_iff (ordinary : quote ≠ '\\') {s body rest : List Char} :
    scanStringBody quote s = .ok (body, rest) ↔ IsBody quote s body rest := by
  constructor
  · intro scanned
    fun_induction scanStringBody quote s generalizing body with
    | case1 | case3 | case4 | case6 => cases scanned
    | case2 more =>
        cases scanned
        exact ⟨[], fun _ mem => absurd mem List.not_mem_nil, rfl, rfl⟩
    | case5 x₁ x₂ x₃ x₄ more c read _ ih =>
        rcases exists_of_withChar scanned with ⟨inner, scannedMore, rfl⟩
        rcases (unicodeEscape?_eq_some_iff quote).mp read with ⟨accepted, rfl⟩
        exact (ih scannedMore).cons accepted
    | case7 c more _ notMark _ ih =>
        rcases exists_of_withChar scanned with ⟨inner, scannedMore, rfl⟩
        rw [escapedChar_eq]
        exact (ih scannedMore).cons (.inl (.escape notMark))
    | case8 c more notQuote notBackslash ih =>
        rcases exists_of_withChar scanned with ⟨inner, scannedMore, rfl⟩
        exact (ih scannedMore).cons (.inl (.plain notQuote notBackslash))
  · rintro ⟨items, accepted, rfl, rfl⟩
    rw [scanStringBody_items ordinary accepted, scanStringBody.eq_def]
    simp [Except.map]

/-- Behind `\u` there has to be a code point. -/
theorem scanStringBody_of_no_code (ordinary : quote ≠ '\\') {more : List Char}
    (noCode : ∀ x₁ x₂ x₃ x₄ rest, more = x₁ :: x₂ :: x₃ :: x₄ :: rest →
      ¬ (code x₁ x₂ x₃ x₄).IsAccepted quote) :
    scanStringBody quote ('\\' :: 'u' :: more) = .error .badUnicodeEscape := by
  rw [scanStringBody.eq_def]
  simp only [if_neg ordinary.symm, if_true]
  split
  · rename_i same
    cases same
  · rename_i x₁ x₂ x₃ x₄ rest same
    cases same
    have refused : unicodeEscape? [x₁, x₂, x₃, x₄] = none :=
      Option.eq_none_iff_forall_ne_some.mpr fun c read =>
        noCode x₁ x₂ x₃ x₄ rest rfl ((unicodeEscape?_eq_some_iff quote).mp read).1
    rw [refused]
  · rfl
  · rename_i notMark same
    cases same
    exact absurd rfl notMark

/-! ## Literals -/

theorem scanToken_of_isQuote (isQuote : quote = '\x22' ∨ quote = '\x27') (s : List Char) :
    scanToken quote s = scanString quote s := by
  rcases isQuote with rfl | rfl <;> rfl

/-- Behind a quote the scanner takes exactly the items up to the next quote of that kind that is not
escaped, and the literal stands for their characters.  Besides code points of four hexadecimal
digits it takes those with a plus sign in the place of the first digit; anything else behind `\u` is
a fault. -/
theorem scanToken_of_quote {quote : Char} (isQuote : quote = '\x22' ∨ quote = '\x27')
    (s : List Char) :
    (∀ token rest, scanToken quote s = .ok (token, rest) ↔
      ∃ items : List StringItem,
        (∀ item ∈ items, item.IsWellFormed quote ∨ item.IsSigned) ∧
        s = items.flatMap StringItem.text ++ quote :: rest ∧
        token = .string (String.ofList (items.map StringItem.char))) ∧
    ∀ (items : List StringItem) (more : List Char),
      (∀ item ∈ items, item.IsWellFormed quote ∨ item.IsSigned) →
      s = items.flatMap StringItem.text ++ '\\' :: 'u' :: more →
      (∀ x₁ x₂ x₃ x₄ rest, more = x₁ :: x₂ :: x₃ :: x₄ :: rest →
        ¬ ((x₁ = '+' ∨ isHexDigit x₁ = true) ∧ ∀ x ∈ [x₂, x₃, x₄], isHexDigit x = true)) →
      ∃ fault, scanToken quote s = .error fault ∧
        fault.item.message = "Invalid unicode escape" := by
  have ordinary : quote ≠ '\\' := by
    rcases isQuote with rfl | rfl <;> decide
  rw [scanToken_of_isQuote isQuote, scanString]
  constructor
  · intro token rest
    constructor
    · intro scanned
      split at scanned
      · rename_i body _ scannedBody
        cases scanned
        rcases (scanStringBody_eq_ok_iff ordinary).mp scannedBody with ⟨items, accepted, split, rfl⟩
        exact ⟨items, accepted, split, rfl⟩
      · cases scanned
    · rintro ⟨items, accepted, split, rfl⟩
      rw [(scanStringBody_eq_ok_iff ordinary).mpr ⟨items, accepted, split, rfl⟩]
  · rintro items more accepted rfl noCode
    have refused : scanStringBody quote ('\\' :: 'u' :: more) = .error .badUnicodeEscape :=
      scanStringBody_of_no_code ordinary fun x₁ x₂ x₃ x₄ rest same isCode =>
        noCode x₁ x₂ x₃ x₄ rest same (isAccepted_code_iff.mp isCode)
    rw [scanStringBody_items ordinary accepted, refused]
    exact ⟨_, rfl, rfl⟩

/-- An escaped quote, a code point and a quote of the other kind. -/
theorem scanToken_of_quote_escaped :
    ('\x22' = '\x22' ∨ '\x22' = '\x27') ∧
      scanToken '\x22' "\\\"\\u00e9' + 1\" + a".toList = .ok (.string "\"é' + 1", " + a".toList) :=
  ⟨.inl rfl, ((scanToken_of_quote (.inl rfl) _).1 _ _).mpr
    ⟨[.escape '\x22', .code '0' '0' 'e' '9', .plain '\x27', .plain ' ', .plain '+', .plain ' ',
        .plain '1'],
      by
        simp only [List.forall_mem_cons, List.not_mem_nil, false_imp_iff, implies_true, and_true]
        exact ⟨.inl (.escape (by decide)), .inl (.code (List.all_eq_true.mp rfl)),
          .inl (.plain (by decide) (by decide)), .inl (.plain (by decide) (by decide)),
          .inl (.plain (by decide) (by decide)), .inl (.plain (by decide) (by decide)),
          .inl (.plain (by decide) (by decide))⟩,
      by decide, by decide⟩⟩

/-- A sign and three digits are taken for a code point, although they are no item of a literal. -/
theorem scanToken_signed_code :
    scanToken '\x22' "\\u+041\"".toList = .ok (.string "A", []) ∧
      ¬ ∃ (items : List StringItem) (rest : List Char),
        (∀ item ∈ items, item.IsWellFormed '\x22') ∧
        "\\u+041\"".toList = items.flatMap StringItem.text ++ '\x22' :: rest := by
  constructor
  · have signed : ∀ item ∈ [code '+' '0' '4' '1'], item.IsAccepted '\x22' :=
      List.forall_mem_singleton.mpr (.inr (.code (List.all_eq_true.mp rfl)))
    have scanned : scanStringBody '\x22' "\\u+041\"".toList = .ok (['A'], []) :=
      (scanStringBody_eq_ok_iff (by decide)).mpr ⟨_, signed, by decide, by decide⟩
    rw [scanToken_of_isQuote (.inl rfl), scanString, scanned]
  rintro ⟨items, rest, wellFormed, split⟩
  cases items with
  | nil => cases split
  | cons item others =>
      rw [List.flatMap_cons, List.append_assoc] at split
      cases wellFormed item List.mem_cons_self with
      | plain _ notBackslash => exact notBackslash (List.cons.inj split).1.symm
      | escape notMark => exact notMark (List.cons.inj (List.cons.inj split).2).1.symm
      | @code x₁ x₂ x₃ x₄ hex =>
          have sign : x₁ = '+' := (List.cons.inj (List.cons.inj (List.cons.inj split).2).2).1.symm
          have digit := hex x₁ List.mem_cons_self
          rw [sign] at digit
          exact absurd digit (by decide)

end Stencil.Expr
