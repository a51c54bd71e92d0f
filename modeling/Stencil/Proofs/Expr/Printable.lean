import Stencil.Proofs.Expr.Scanning
import Stencil.Proofs.Number.Output

/-!
# Expressions without ambiguous print

Only what stands between two or three operands is printed in parentheses.  Printing is ambiguous
where something else would need them: an operator in front of the object of a step, a point behind
a number, a call in the target of a construction.  Literals and names have to be written forms of
their tokens.
-/

namespace Stencil.Expr

open Text

/-- Literals whose printed form is a token: numbers without a sign, and texts without characters
that are shown by their code points.  Negative zero has a sign that its printed form does not show,
so that it would be read back as zero. -/
def isWritable : Value → Bool
  | .undefined | .null | .bool _ => true
  | .number n => n.isFinite && !n.negative
  | .string s => s.toList.all fun c => quoteChar c != codePointEscape c
  | _ => false

/-- Whether an expression is an operator in front of an operand. -/
def isUnary : Expr → Bool
  | unary _ _ => true
  | _ => false

/-- Whether an expression is the literal of a number. -/
def isNumber : Expr → Bool
  | literal (.number _) => true
  | _ => false

mutual

/-- Whether an expression is printed without ambiguity. -/
def isUnambiguous : Expr → Bool
  | literal value => isWritable value
  | var name => Name.isVariable name.toList
  | loopIndex | this => true
  | array items => areUnambiguous items
  | member object property =>
      object.isUnambiguous && !object.isUnary && !object.isNumber && Name.isName property.toList
  | index object key => object.isUnambiguous && !object.isUnary && key.isUnambiguous
  | call callee args => callee.isUnambiguous && !callee.isUnary && areUnambiguous args
  | new target args => target.isTarget && areUnambiguous args
  | unary _ operand => operand.isUnambiguous
  | binary _ left right => left.isUnambiguous && right.isUnambiguous
  | conditional test consequent alternate =>
      test.isUnambiguous && consequent.isUnambiguous && alternate.isUnambiguous

/-- Whether an expression can be the target of a construction: a variable and steps that access
members of it. -/
def isTarget : Expr → Bool
  | var name => Name.isVariable name.toList
  | member object property => object.isTarget && Name.isName property.toList
  | index object key => object.isTarget && key.isUnambiguous
  | _ => false

/-- Whether all expressions of a list are printed without ambiguity. -/
def areUnambiguous : List Expr → Bool
  | [] => true
  | item :: rest => item.isUnambiguous && areUnambiguous rest

end

mutual

/-- The height of an expression as a tree.  What has no parts has height zero. -/
def height : Expr → Nat
  | literal _ | var _ | loopIndex | this => 0
  | array items => heightOver items
  | member object _ => object.height + 1
  | index object key => max object.height key.height + 1
  | call callee args => max (callee.height + 1) (heightOver args)
  | new target args => max (target.height + 1) (heightOver args)
  | unary _ operand => operand.height + 1
  | binary _ left right => max left.height right.height + 1
  | conditional test consequent alternate =>
      max test.height (max consequent.height alternate.height) + 1

/-- The height of a tree over a list of expressions. -/
def heightOver : List Expr → Nat
  | [] => 0
  | item :: rest => max (item.height + 1) (heightOver rest)

end

variable {text : List Char} {token : Token} {e : Expr} {name : String}

/-! ## Words -/

theorem ofText?_eq_none_of_isVariable (isVariable : Name.isVariable name.toList = true) :
    Keyword.ofText? name = none := by
  rw [Name.isVariable, Bool.and_eq_true, String.ofList_toList, Bool.not_eq_true'] at isVariable
  apply Option.eq_none_iff_forall_ne_some.mpr
  intro k found
  obtain rfl : k.text = name := by simpa using List.find?_some found
  have reserved : Name.isReserved k.text = true := by cases k <;> decide
  rw [reserved] at isVariable
  cases isVariable.2

theorem writes_var (isVariable : Name.isVariable name.toList = true) :
    WritesToken name.toList (.name name) ∧ IsAtom (.name name) (.var name) := by
  have word := ofText?_eq_none_of_isVariable isVariable
  rw [Name.isVariable, Bool.and_eq_true, String.ofList_toList, Bool.not_eq_true'] at isVariable
  have writes := WritesToken.word isVariable.1
  rw [String.ofList_toList, Token.ofWord, word] at writes
  exact ⟨writes, .var isVariable.2⟩

theorem writes_keyword (k : Keyword) : WritesToken k.text.toList (.keyword k) := by
  have isName : Name.isName k.text.toList = true := by cases k <;> decide
  have writes := WritesToken.word isName
  rwa [String.ofList_toList, Token.ofWord, Keyword.ofText?_text] at writes

/-- Every word names a property. -/
theorem isProperty_ofWord (name : String) : IsProperty (.ofWord name) name := by
  unfold Token.ofWord
  split
  · rename_i k found
    obtain rfl : k.text = name := by simpa using List.find?_some found
    exact .keyword k
  · exact .name name

/-! ## Literals -/

/-- A character that is not shown by its code point is an item of a literal. -/
theorem exists_item_of_quoteChar {c : Char} (plain : quoteChar c ≠ codePointEscape c) :
    ∃ item : StringItem, item.IsAccepted '\x22' ∧ item.text = quoteChar c ∧ item.char = c := by
  unfold quoteChar at plain ⊢
  split_ifs at plain ⊢ with isQuote isBackslash isLine isReturn isTab isNull
  · exact ⟨.escape '\x22', .inl (.escape (by decide)), rfl, isQuote.symm⟩
  · exact ⟨.escape '\\', .inl (.escape (by decide)), rfl, isBackslash.symm⟩
  · exact ⟨.escape 'n', .inl (.escape (by decide)), rfl, isLine.symm⟩
  · exact ⟨.escape 'r', .inl (.escape (by decide)), rfl, isReturn.symm⟩
  · exact ⟨.escape 't', .inl (.escape (by decide)), rfl, isTab.symm⟩
  · exact ⟨.escape '0', .inl (.escape (by decide)), rfl, isNull.symm⟩
  · exact ⟨.plain c, .inl (.plain isQuote isBackslash), rfl, rfl⟩
  · exact absurd rfl plain

theorem exists_items_of_quoteChars {s : List Char}
    (plain : ∀ c ∈ s, quoteChar c ≠ codePointEscape c) :
    ∃ items : List StringItem, (∀ item ∈ items, item.IsAccepted '\x22') ∧
      items.flatMap StringItem.text = s.flatMap quoteChar ∧ items.map StringItem.char = s := by
  induction s with
  | nil => exact ⟨[], fun _ mem => absurd mem List.not_mem_nil, rfl, rfl⟩
  | cons c more ih =>
      rcases List.forall_mem_cons.mp plain with ⟨first, others⟩
      rcases exists_item_of_quoteChar first with ⟨item, accepted, text_eq, char_eq⟩
      rcases ih others with ⟨items, allAccepted, texts_eq, chars_eq⟩
      refine ⟨item :: items, List.forall_mem_cons.mpr ⟨accepted, allAccepted⟩, ?_, ?_⟩
      · rw [List.flatMap_cons, List.flatMap_cons, text_eq, texts_eq]
      · rw [List.map_cons, char_eq, chars_eq]

/-- A quoted text is a literal of the text. -/
theorem writes_quoted {s : String} (plain : ∀ c ∈ s.toList, quoteChar c ≠ codePointEscape c) :
    WritesToken (quoted s).toList (.string s) := by
  rcases exists_items_of_quoteChars plain with ⟨items, accepted, texts_eq, chars_eq⟩
  have isQuote : '\x22' ∈ ['\x22', '\x27'] := by decide
  have writes := WritesToken.string isQuote accepted
  rw [texts_eq, chars_eq, String.ofList_toList] at writes
  rwa [quoted, String.toList_ofList, quote]

/-- The printed form of a literal is a token of its own. -/
theorem exists_writes_literal {value : Value} (writable : isWritable value = true) :
    ∃ token, WritesToken (literal value).text.toList token ∧ IsAtom token (literal value) := by
  cases value with
  | undefined => exact ⟨_, writes_keyword .undefined, .undefined⟩
  | null => exact ⟨_, writes_keyword .null, .null⟩
  | bool b =>
      cases b with
      | true => exact ⟨_, writes_keyword .true, .true⟩
      | false => exact ⟨_, writes_keyword .false, .false⟩
  | number n =>
      simp only [isWritable, Bool.and_eq_true, Bool.not_eq_true'] at writable
      rcases Binary64.exists_writesLiteral_toText writable.1 writable.2 with ⟨l, literal, value⟩
      have writes := WritesToken.number (.decimal literal)
      rw [value] at writes
      exact ⟨_, writes, .number n⟩
  | string s =>
      simp only [isWritable, List.all_eq_true, bne_iff_ne] at writable
      exact ⟨_, writes_quoted writable, .string s⟩
  | _ => cases writable

theorem writes_loopIndex : WritesToken loopIndex.text.toList (.directive "index") :=
  .directive (by decide) (List.all_eq_true.mp (by decide))

end Stencil.Expr
