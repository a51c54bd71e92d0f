import Stencil.Proofs.Text.Percent.Decoding
import Stencil.Proofs.Text.Utf16

/-!
# Round trip of escapes

Each decoder undoes its encoder.  The encoders for addresses escape `%` and only characters whose
escapes the decoder gives back, so what they write decodes to the text.  Unit coding is followed
unit by unit: no written escape of two digits looks like one of four.
-/

namespace Stencil.Text

/-! ## Bytes -/

theorem lt_of_mem_utf8Bytes {c : Char} {b : Nat} (mem : b ∈ utf8Bytes c) : b < 256 := by
  rw [utf8Bytes_eq_utf8EncodeChar, List.mem_map] at mem
  rcases mem with ⟨byte, -, rfl⟩
  exact byte.toNat_lt

/-- An encoded text stands for the text if `%` is escaped and no preserved character is. -/
theorem decodes_percentEncode {keeps : Char → Bool} {preserved : Char → Prop}
    (escapesPercent : keeps '%' = false) (keepsPreserved : ∀ c, preserved c → keeps c = true)
    (s : List Char) :
    Decodes preserved (percentEncode keeps s) s := by
  induction s with
  | nil => exact .nil
  | cons c s ih =>
      rw [percentEncode, List.flatMap_cons]
      by_cases kept : keeps c = true
      · have isPlain : c ≠ '%' := by
          rintro rfl
          simp [escapesPercent] at kept
        rw [if_pos kept]
        exact .plain isPlain ih
      · have escapes : Escapes (percentChar c) ((String.utf8EncodeChar c).map UInt8.toNat) := by
          rw [← utf8Bytes_eq_utf8EncodeChar]
          exact escapes_flatMap_percentByte fun b => lt_of_mem_utf8Bytes
        rw [if_neg kept]
        exact .escaped (fun isPreserved => kept (keepsPreserved c isPreserved)) escapes ih

theorem decodeUriComponent?_encodeUriComponent (s : List Char) :
    decodeUriComponent? (encodeUriComponent s) = some s := by
  rw [decodeUriComponent?, percentDecode?_eq_some_iff (by simp), encodeUriComponent]
  exact decodes_percentEncode (by decide) (by simp) s

theorem decodeUri?_encodeUri (s : List Char) : decodeUri? (encodeUri s) = some s := by
  rw [decodeUri?, percentDecode?_eq_some_iff lt_of_mem_uriDelimiters, encodeUri]
  refine decodes_percentEncode (by decide) (fun c isDelimiter => ?_) s
  simp only [List.contains_iff_mem, List.mem_map, Char.toNat_inj, exists_eq_right] at isDelimiter
  simp [isDelimiter]

/-! ## Units -/

theorem digitValue?_upperHexDigit {d : Nat} (small : d < 16) :
    digitValue? (upperHexDigit d) = some d :=
  (Option.filter_eq_some_iff.mp (digitOf?_eq_some_iff.mpr (hexDigit_upperHexDigit small))).1

/-- Written digits have the number as their value whose digits they are. -/
theorem hexValue?_upperHexDigits (digits : List Nat) (small : ∀ d ∈ digits, d < 16) :
    hexValue? (digits.map upperHexDigit) = some (digits.foldl (fun n d => n * 16 + d) 0) := by
  have all : (digits.map upperHexDigit).all isHexDigit = true := by
    rw [List.all_map, List.all_eq_true]
    intro d mem
    simp [isHexDigit, digitOf?_eq_some_iff.mpr (hexDigit_upperHexDigit (small d mem))]
  rw [hexValue?, if_pos all, ofDigits, List.foldl_map]
  refine congrArg some (List.foldl_ext _ _ _ fun n d mem => ?_)
  rw [digitValue?_upperHexDigit (small d mem), Option.getD_some]

/-- A digit is never taken for the mark of an escape of four digits. -/
theorem upperHexDigit_ne_u {d : Nat} (small : d < 16) : upperHexDigit d ≠ 'u' := by
  intro isMark
  have := digitValue?_upperHexDigit small
  rw [isMark] at this
  have value : digitValue? 'u' = some 30 := by decide
  rw [value] at this
  have := Option.some.inj this
  omega

theorem unescapedUnits_cons {c : Char} (isPlain : c ≠ '%') (s : List Char) :
    unescapedUnits (c :: s) = utf16Units c ++ unescapedUnits s := by
  rw [unescapedUnits.eq_def]
  split
  all_goals simp_all

theorem hexValue?_two {unit : Nat} (small : unit < 256) :
    hexValue? [upperHexDigit (unit / 16), upperHexDigit (unit % 16)] = some unit := by
  have value := hexValue?_upperHexDigits [unit / 16, unit % 16] (by simp; omega)
  have sum : [unit / 16, unit % 16].foldl (fun n d => n * 16 + d) 0 = unit := by
    simp only [List.foldl_cons, List.foldl_nil]
    omega
  rwa [sum] at value

theorem hexValue?_four {unit : Nat} (small : unit < 0x10000) :
    hexValue? [upperHexDigit (unit / 4096), upperHexDigit (unit / 256 % 16),
      upperHexDigit (unit / 16 % 16), upperHexDigit (unit % 16)] = some unit := by
  have value := hexValue?_upperHexDigits
    [unit / 4096, unit / 256 % 16, unit / 16 % 16, unit % 16] (by simp; omega)
  have sum : [unit / 4096, unit / 256 % 16, unit / 16 % 16, unit % 16].foldl
      (fun n d => n * 16 + d) 0 = unit := by
    simp only [List.foldl_cons, List.foldl_nil]
    omega
  rwa [sum] at value

/-- The escape of a unit in front is read as that unit. -/
theorem unescapedUnits_escapeUnit_append {unit : Nat} (small : unit < 0x10000) (s : List Char) :
    unescapedUnits (escapeUnit unit ++ s) = unit :: unescapedUnits s := by
  unfold escapeUnit
  by_cases short : unit < 256
  · have noMark : upperHexDigit (unit / 16) ≠ 'u' := upperHexDigit_ne_u (by omega)
    rw [if_pos short, percentByte, List.cons_append, List.cons_append, List.cons_append,
      List.nil_append, unescapedUnits.eq_def]
    simp [noMark, hexValue?_two short]
  · rw [if_neg short]
    simp only [List.cons_append, List.nil_append]
    rw [unescapedUnits.eq_def]
    simp [hexValue?_four small]

theorem unescapedUnits_flatMap_escapeUnit_append {units : List Nat}
    (small : ∀ unit ∈ units, unit < 0x10000) (s : List Char) :
    unescapedUnits (units.flatMap escapeUnit ++ s) = units ++ unescapedUnits s := by
  induction units with
  | nil => rfl
  | cons unit units ih =>
      rw [List.flatMap_cons, List.append_assoc,
        unescapedUnits_escapeUnit_append (small unit List.mem_cons_self),
        ih fun other mem => small other (List.mem_cons_of_mem _ mem), List.cons_append]

/-- The units of an escaped text are those of the text. -/
theorem unescapedUnits_escapeUnits (s : List Char) :
    unescapedUnits (escapeUnits s) = s.flatMap utf16Units := by
  induction s with
  | nil => rfl
  | cons c s ih =>
      rw [escapeUnits, List.flatMap_cons, List.flatMap_cons, ← escapeUnits, ← ih]
      by_cases kept : isUnitChar c = true
      · have isPlain : c ≠ '%' := by
          rintro rfl
          revert kept
          decide
        rw [if_pos kept]
        exact unescapedUnits_cons isPlain _
      · rw [if_neg kept]
        exact unescapedUnits_flatMap_escapeUnit_append (fun unit => lt_of_mem_utf16Units) _

/-! ## Texts -/

/-- Every text comes back from each of the three encodings. -/
theorem decode_encode_eq_self (s : List Char) :
    decodeUriComponent? (encodeUriComponent s) = some s ∧
    decodeUri? (encodeUri s) = some s ∧
    unescapeUnits (escapeUnits s) = s := by
  refine ⟨decodeUriComponent?_encodeUriComponent s, decodeUri?_encodeUri s, ?_⟩
  rw [unescapeUnits, unescapedUnits_escapeUnits, ofUtf16_flatMap_utf16Units]

end Stencil.Text
