import Stencil.Proofs.Json.Number

/-!
# Reading written strings

Every character of a string is written plainly or as an escape, and both are read as that character.
-/

namespace Stencil.Json

open Text (isHexDigit ofDigits)

/-! ## Characters -/

/-- The written forms of a character: an escape of two characters, a code of four digits, or the
character itself. -/
inductive Writes (c : Char) : List Char → Prop where
  | escape (mark : Char)
      (readAs : ∀ more offset, readEscape ⟨mark :: more, offset⟩ = .ok (c, ⟨more, offset + 1⟩)) :
      Writes c ['\\', mark]
  | code (control : c.toNat < 0x20) : Writes c (['\\', 'u', '0', '0'] ++ hexByte c.toNat)
  | plain (noControl : 0x20 ≤ c.toNat) (noQuote : c ≠ '\x22') (noBackslash : c ≠ '\\') :
      Writes c [c]

theorem writes_stringChar (c : Char) : Writes c (stringChar c) := by
  rw [stringChar.eq_def]
  split
  case h_8 noQuote noBackslash _ _ _ _ _ =>
    split
    case isTrue control => exact .code control
    case isFalse noControl => exact .plain (by omega) noQuote noBackslash
  all_goals exact .escape _ fun _ _ => rfl

theorem hexByte_spec : ∀ n < 32,
    ('0' :: '0' :: hexByte n).all isHexDigit ∧ ofDigits 16 ('0' :: '0' :: hexByte n) = n := by
  decide

theorem readEscape_code {c : Char} (control : c.toNat < 0x20) (more : List Char) (offset : ℕ) :
    readEscape ⟨'u' :: '0' :: '0' :: (hexByte c.toNat ++ more), offset⟩ =
      .ok (c, ⟨more, offset + 5⟩) := by
  rcases hexByte_spec c.toNat control with ⟨hex, value⟩
  have unit : readHexUnit ⟨'0' :: '0' :: (hexByte c.toNat ++ more), offset + 1⟩ =
      .ok (ofDigits 16 ('0' :: '0' :: hexByte c.toNat), ⟨more, offset + 5⟩) := if_pos hex
  have notLow : Text.isLowSurrogate c.toNat = false := by
    rw [Text.isLowSurrogate]
    simp
    omega
  have notHigh : Text.isHighSurrogate c.toNat = false := by
    rw [Text.isHighSurrogate]
    simp
    omega
  change readUnicode ⟨'0' :: '0' :: (hexByte c.toNat ++ more), offset + 1⟩ = _
  rw [value] at unit
  simp only [readUnicode, unit, bind, Except.bind, notLow, notHigh, Char.ofNat_toNat]
  rfl

/-! ## Strings -/

theorem exists_readString_eq (steps : ℕ) (acc : List Char) (c : Char) (more : List Char)
    (offset : ℕ) : ∃ after, readString (steps + 1) acc ⟨stringChar c ++ more, offset⟩ =
      readString steps (c :: acc) ⟨more, after⟩ := by
  have writes := writes_stringChar c
  generalize stringChar c = written at writes
  cases writes with
  | escape mark readAs =>
      refine ⟨offset + 2, ?_⟩
      change (readEscape ⟨mark :: more, offset + 1⟩ >>= _) = _
      rw [readAs]
      rfl
  | code control =>
      refine ⟨offset + 6, ?_⟩
      change (readEscape ⟨'u' :: '0' :: '0' :: (hexByte c.toNat ++ more), offset + 1⟩ >>= _) = _
      rw [readEscape_code control]
      rfl
  | plain noControl noQuote noBackslash =>
      refine ⟨offset + (Text.utf8Bytes c).length, ?_⟩
      simp [readString, Nat.not_lt.mpr noControl, Cursor.past]

theorem stringChar_ne_nil (c : Char) : stringChar c ≠ [] := by
  have writes := writes_stringChar c
  generalize stringChar c = written at writes
  cases writes <;> exact List.cons_ne_nil _ _

theorem length_le_length_flatMap_stringChar (cs : List Char) :
    cs.length ≤ (cs.flatMap stringChar).length := by
  induction cs with
  | nil => exact Nat.le_refl 0
  | cons c rest ih =>
      have := List.length_pos_iff.mpr (stringChar_ne_nil c)
      rw [List.flatMap_cons, List.length_append, List.length_cons]
      omega

theorem takes_readString (cs rest : List Char) {steps : ℕ} (enough : cs.length < steps)
    (acc : List Char) : Takes (readString steps acc) (cs.flatMap stringChar ++ '\x22' :: rest)
      (String.ofList (acc.reverse ++ cs)) rest := by
  induction cs generalizing steps acc with
  | nil =>
      rcases Nat.exists_eq_add_one_of_ne_zero (Nat.ne_zero_of_lt enough) with ⟨steps, rfl⟩
      intro offset
      refine ⟨offset + 1, ?_⟩
      rw [List.append_nil]
      rfl
  | cons c others ih =>
      rcases Nat.exists_eq_add_one_of_ne_zero (Nat.ne_zero_of_lt enough) with ⟨steps, rfl⟩
      intro offset
      rw [List.flatMap_cons, List.append_assoc]
      rcases exists_readString_eq steps acc c (others.flatMap stringChar ++ '\x22' :: rest) offset
        with ⟨after, step⟩
      rw [step]
      have := ih (Nat.lt_of_succ_lt_succ enough) (c :: acc) after
      rwa [List.reverse_cons, List.append_assoc] at this

/-- The text of a string behind its opening quote is read as that string. -/
theorem takes_readStringBody (s : String) (rest : List Char) :
    Takes readStringBody ((stringText s).tail ++ rest) s rest := by
  intro offset
  have written : (stringText s).tail ++ rest = s.toList.flatMap stringChar ++ '\x22' :: rest := by
    rw [stringText, List.cons_append, List.tail_cons, List.append_assoc]
    rfl
  have enough : s.toList.length < (s.toList.flatMap stringChar ++ '\x22' :: rest).length + 1 := by
    have := length_le_length_flatMap_stringChar s.toList
    rw [List.length_append]
    omega
  rw [written]
  rcases takes_readString s.toList rest enough [] offset with ⟨after, read⟩
  refine ⟨after, ?_⟩
  rw [readStringBody, read, List.reverse_nil, List.nil_append, String.ofList_toList]

end Stencil.Json
