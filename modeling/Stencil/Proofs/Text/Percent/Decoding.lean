import Mathlib.Tactic.IntervalCases
import Stencil.Proofs.Text.Utf8
import Stencil.Text.Percent

/-!
# Escapes and their decoding

`Escapes` says which texts are runs of escapes and which bytes they spell.  Reading an escape
finds two hexadecimal digits of either case and nothing else; writing one uses uppercase digits.

`Decodes` says, without a decoder, what a text with escapes stands for: it is cut into characters
other than `%` and into runs of escapes, each of which spells all bytes of one character.  The
decoder puts the bytes of escapes and of other characters into one list and looks for characters
only then, and yet it accepts exactly the texts that stand for something: a continuation byte can
stem from an escape only, so the bytes of one character are never gathered from both.
-/

namespace Stencil.Text

/-- Hexadecimal digits of either case and their values. -/
def HexDigit (c : Char) (d : Nat) : Prop :=
  "0123456789abcdef".toList[d]? = some c ∨ "0123456789ABCDEF".toList[d]? = some c

/-- Runs of escapes, each of them `%` and two hexadecimal digits, and the bytes they spell. -/
inductive Escapes : List Char → List Nat → Prop where
  | nil : Escapes [] []
  | cons {high low : Char} {h l : Nat} {run : List Char} {bytes : List Nat}
      (highDigit : HexDigit high h) (lowDigit : HexDigit low l) (others : Escapes run bytes) :
      Escapes ('%' :: high :: low :: run) ((h * 16 + l) :: bytes)

theorem HexDigit.lt {c : Char} {d : Nat} (digit : HexDigit c d) : d < 16 := by
  rcases digit with digit | digit
  all_goals exact (List.getElem?_eq_some_iff.mp digit).1

theorem toNat_of_digitValue? {c : Char} {d : Nat} (value : digitValue? c = some d) :
    c.toNat = 48 + d ∧ d < 10 ∨ c.toNat = 55 + d ∧ 10 ≤ d ∨ c.toNat = 87 + d ∧ 10 ≤ d := by
  simp only [digitValue?, isDigit, Bool.and_eq_true, decide_eq_true_eq] at value
  split_ifs at value
  all_goals
    have := Option.some.inj value
    omega

theorem hexDigit_of_toNat {c : Char} {d : Nat} (small : d < 16)
    (code : c.toNat = 48 + d ∧ d < 10 ∨ c.toNat = 55 + d ∧ 10 ≤ d ∨ c.toNat = 87 + d ∧ 10 ≤ d) :
    HexDigit c d := by
  rw [← Char.ofNat_toNat c]
  rcases code with ⟨code_eq, code⟩ | ⟨code_eq, code⟩ | ⟨code_eq, code⟩
  all_goals
    rw [code_eq]
    clear code_eq
    interval_cases d
    all_goals simp [HexDigit]

theorem digitOf?_eq_some_iff {c : Char} {d : Nat} : digitOf? 16 c = some d ↔ HexDigit c d := by
  constructor
  · intro digit
    rcases Option.filter_eq_some_iff.mp digit with ⟨value, small⟩
    exact hexDigit_of_toNat (of_decide_eq_true small) (toNat_of_digitValue? value)
  · intro digit
    have small := digit.lt
    rcases digit with digit | digit
    all_goals
      interval_cases d
      all_goals
        rcases Option.some.inj digit with rfl
        decide

theorem hexByte?_eq_some_iff {high low : Char} {b : Nat} :
    hexByte? high low = some b ↔ ∃ h l, HexDigit high h ∧ HexDigit low l ∧ h * 16 + l = b := by
  simp only [← digitOf?_eq_some_iff]
  unfold hexByte?
  constructor
  · intro read
    split at read
    · rename_i h l highDigit lowDigit
      exact ⟨h, l, highDigit, lowDigit, Option.some.inj read⟩
    · cases read
  · rintro ⟨h, l, highDigit, lowDigit, rfl⟩
    rw [highDigit, lowDigit]

/-! ## Written escapes -/

theorem hexDigit_upperHexDigit {d : Nat} (small : d < 16) : HexDigit (upperHexDigit d) d := by
  interval_cases d
  all_goals simp [HexDigit, upperHexDigit]

/-- The escapes of bytes spell these bytes. -/
theorem escapes_flatMap_percentByte {bytes : List Nat} (small : ∀ b ∈ bytes, b < 256) :
    Escapes (bytes.flatMap percentByte) bytes := by
  induction bytes with
  | nil => exact .nil
  | cons b bytes ih =>
      have byteSmall : b < 256 := small b List.mem_cons_self
      have highDigit : HexDigit (upperHexDigit (b / 16)) (b / 16) :=
        hexDigit_upperHexDigit (by omega)
      have lowDigit : HexDigit (upperHexDigit (b % 16)) (b % 16) :=
        hexDigit_upperHexDigit (by omega)
      have others := ih fun other mem => small other (List.mem_cons_of_mem _ mem)
      have sum : b / 16 * 16 + b % 16 = b := by omega
      have escapes := Escapes.cons highDigit lowDigit others
      rwa [sum] at escapes

/-! ## Decoding -/

/-- A text and what it stands for.  The escapes of preserved characters stand for themselves. -/
inductive Decodes (preserved : Char → Prop) : List Char → List Char → Prop where
  | nil : Decodes preserved [] []
  | plain {c : Char} {s t : List Char} (isPlain : c ≠ '%') (others : Decodes preserved s t) :
      Decodes preserved (c :: s) (c :: t)
  | escaped {c : Char} {run s t : List Char} (isPlain : ¬ preserved c)
      (spells : Escapes run ((String.utf8EncodeChar c).map UInt8.toNat))
      (others : Decodes preserved s t) : Decodes preserved (run ++ s) (c :: t)
  | kept {c : Char} {run s t : List Char} (isPlain : preserved c)
      (spells : Escapes run ((String.utf8EncodeChar c).map UInt8.toNat))
      (others : Decodes preserved s t) : Decodes preserved (run ++ s) (run ++ t)

section Bytes

variable {preserves : Nat → Bool}

theorem unescapedBytes?_cons {c : Char} (isPlain : c ≠ '%') (s : List Char) :
    unescapedBytes? preserves (c :: s) = (unescapedBytes? preserves s).map (utf8Bytes c ++ ·) := by
  rw [unescapedBytes?.eq_def]
  simp only [if_neg isPlain]

theorem unescapedBytes?_escape {high low : Char} {b : Nat} (read : hexByte? high low = some b)
    (s : List Char) :
    unescapedBytes? preserves ('%' :: high :: low :: s) =
      (unescapedBytes? preserves s).map
        ((if preserves b then ['%', high, low].flatMap utf8Bytes else [b]) ++ ·) := by
  rw [unescapedBytes?, if_pos rfl, read]

/-- What a text with well-formed escapes begins with. -/
theorem unescapedBytes?_eq_some_cases {s : List Char} {bytes : List Nat}
    (unescaped : unescapedBytes? preserves s = some bytes) :
    (s = [] ∧ bytes = []) ∨
    (∃ c rest more, s = c :: rest ∧ c ≠ '%' ∧ unescapedBytes? preserves rest = some more ∧
      bytes = utf8Bytes c ++ more) ∨
    (∃ high low rest b more, s = '%' :: high :: low :: rest ∧ hexByte? high low = some b ∧
      unescapedBytes? preserves rest = some more ∧
      bytes = (if preserves b then ['%', high, low].flatMap utf8Bytes else [b]) ++ more) := by
  cases s with
  | nil => exact .inl ⟨rfl, (Option.some.inj unescaped).symm⟩
  | cons c s =>
      by_cases percent : c = '%'
      · subst percent
        rw [unescapedBytes?.eq_def] at unescaped
        simp only [if_true] at unescaped
        split at unescaped
        · split at unescaped
          · cases unescaped
          · rename_i read
            rcases Option.map_eq_some_iff.mp unescaped with ⟨more, moreUnescaped, rfl⟩
            exact .inr (.inr ⟨_, _, _, _, more, rfl, read, moreUnescaped, rfl⟩)
        · cases unescaped
      · rw [unescapedBytes?_cons percent] at unescaped
        rcases Option.map_eq_some_iff.mp unescaped with ⟨more, moreUnescaped, rfl⟩
        exact .inr (.inl ⟨c, s, more, rfl, percent, moreUnescaped, rfl⟩)

/-- A run of escapes of bytes that are not preserved gives these bytes. -/
theorem unescapedBytes?_run_append {run : List Char} {bytes : List Nat}
    (escapes : Escapes run bytes) (lost : ∀ b ∈ bytes, preserves b = false) (s : List Char) :
    unescapedBytes? preserves (run ++ s) = (unescapedBytes? preserves s).map (bytes ++ ·) := by
  induction escapes with
  | nil => simp
  | @cons highChar lowChar high low run bytes highDigit lowDigit others ih =>
      have read : hexByte? highChar lowChar = some (high * 16 + low) :=
        hexByte?_eq_some_iff.mpr ⟨high, low, highDigit, lowDigit, rfl⟩
      have firstLost : preserves (high * 16 + low) = false := lost _ List.mem_cons_self
      have restLost := ih fun b mem => lost b (List.mem_cons_of_mem _ mem)
      simp only [List.cons_append]
      rw [unescapedBytes?_escape read, restLost, Option.map_map]
      simp [firstLost, Function.comp_def]

/-- Continuation bytes stem from escapes. -/
theorem exists_escapes_of_isContinuation {bytes more : List Nat} {s : List Char}
    (unescaped : unescapedBytes? preserves s = some (bytes ++ more))
    (continuations : ∀ b ∈ bytes, IsContinuation b) :
    ∃ run rest, s = run ++ rest ∧ Escapes run bytes ∧
      unescapedBytes? preserves rest = some more := by
  induction bytes generalizing s with
  | nil => exact ⟨[], s, rfl, .nil, unescaped⟩
  | cons b bytes ih =>
      have continuation : IsContinuation b := continuations b List.mem_cons_self
      rcases unescapedBytes?_eq_some_cases unescaped with ⟨-, none⟩ |
        ⟨c, rest, others, -, -, -, bytes_eq⟩ |
        ⟨high, low, rest, byte, others, rfl, read, restUnescaped, bytes_eq⟩
      · cases none
      · rcases exists_leads c with ⟨lead, tail, split, leads⟩
        rw [split] at bytes_eq
        rcases List.cons.inj bytes_eq with ⟨rfl, -⟩
        exact absurd continuation leads.not_isContinuation
      · by_cases kept : preserves byte = true
        · rw [if_pos kept] at bytes_eq
          rcases List.cons.inj bytes_eq with ⟨rfl, -⟩
          exact absurd continuation (by simp [IsContinuation])
        · rw [if_neg kept] at bytes_eq
          rcases List.cons.inj bytes_eq with ⟨rfl, rfl⟩
          rcases ih restUnescaped fun b mem => continuations b (List.mem_cons_of_mem _ mem) with
            ⟨run, behind, rfl, escapes, behindUnescaped⟩
          rcases hexByte?_eq_some_iff.mp read with ⟨highValue, lowValue, highDigit, lowDigit, rfl⟩
          exact ⟨'%' :: high :: low :: run, behind, rfl, .cons highDigit lowDigit escapes,
            behindUnescaped⟩

/-- The bytes of a character are bytes that are not preserved, unless the character is. -/
theorem preserves_eq_false_of_mem (ascii : ∀ b, preserves b = true → b < 0x80) {c : Char}
    (notKept : ¬ preserves c.toNat = true) : ∀ b ∈ utf8Bytes c, preserves b = false := by
  intro b mem
  by_cases single : c.toNat < 0x80
  · rw [utf8Bytes_of_lt single, List.mem_singleton] at mem
    rw [mem]
    simpa using notKept
  · have high : 0x80 ≤ b := by
      rcases utf8Bytes_cases c with ⟨bytes, -⟩ | ⟨-, -, bytes⟩ | ⟨-, -, bytes⟩ | ⟨-, -, bytes⟩
      · exact absurd bytes single
      all_goals
        rw [bytes] at mem
        simp only [List.mem_cons, List.not_mem_nil, or_false] at mem
        omega
    by_contra kept
    have := ascii b (by simpa using kept)
    omega

/-- A text yields the bytes of what it stands for. -/
theorem unescapedBytes?_of_decodes (ascii : ∀ b, preserves b = true → b < 0x80)
    {s t : List Char} (decodes : Decodes (fun c => preserves c.toNat = true) s t) :
    unescapedBytes? preserves s = some (t.flatMap utf8Bytes) := by
  induction decodes with
  | nil => rfl
  | plain first _ ih => rw [unescapedBytes?_cons first, ih, Option.map_some, List.flatMap_cons]
  | @escaped c run s t first spells _ ih =>
      rw [← utf8Bytes_eq_utf8EncodeChar] at spells
      rw [unescapedBytes?_run_append spells (preserves_eq_false_of_mem ascii first), ih,
        Option.map_some, List.flatMap_cons]
  | @kept c run s t first spells _ ih =>
      rw [← utf8Bytes_eq_utf8EncodeChar, utf8Bytes_of_lt (ascii _ first)] at spells
      generalize code : c.toNat = b at first spells
      cases spells with
      | @cons high low highValue lowValue run _ highDigit lowDigit others =>
          cases others
          have read : hexByte? high low = some (highValue * 16 + lowValue) :=
            hexByte?_eq_some_iff.mpr ⟨highValue, lowValue, highDigit, lowDigit, rfl⟩
          simp only [List.cons_append, List.nil_append]
          rw [unescapedBytes?_escape read, ih, if_pos first, Option.map_some, ← List.flatMap_append]
          rfl

/-- The escape of a byte below 128 spells a character. -/
theorem escapes_ofNat {high low : Char} {b : Nat} (read : hexByte? high low = some b)
    (single : b < 0x80) :
    (Char.ofNat b).toNat = b ∧
      Escapes ['%', high, low] ((String.utf8EncodeChar (Char.ofNat b)).map UInt8.toNat) := by
  rcases hexByte?_eq_some_iff.mp read with ⟨highValue, lowValue, highDigit, lowDigit, rfl⟩
  have code : (Char.ofNat (highValue * 16 + lowValue)).toNat = highValue * 16 + lowValue :=
    toNat_ofNat (.inl (by omega))
  refine ⟨code, ?_⟩
  rw [← utf8Bytes_eq_utf8EncodeChar, utf8Bytes_of_lt (by omega), code]
  exact .cons highDigit lowDigit .nil

/-- If the byte of an escape begins a character, the escapes behind it complete the character. -/
theorem exists_escapes_of_utf8Bytes {high low : Char} {b : Nat} {rest : List Char}
    {more bytes : List Nat} {c : Char} (read : hexByte? high low = some b)
    (unescaped : unescapedBytes? preserves rest = some more)
    (bytes_eq : utf8Bytes c ++ bytes = b :: more) :
    ∃ run behind, rest = run ++ behind ∧
      Escapes ('%' :: high :: low :: run) ((String.utf8EncodeChar c).map UInt8.toNat) ∧
      unescapedBytes? preserves behind = some bytes := by
  rcases exists_leads c with ⟨lead, tail, split, leads⟩
  rw [split] at bytes_eq
  rcases List.cons.inj bytes_eq with ⟨rfl, rfl⟩
  rcases exists_escapes_of_isContinuation unescaped leads.isContinuation with
    ⟨run, behind, rfl, escapes, behindUnescaped⟩
  rcases hexByte?_eq_some_iff.mp read with ⟨highValue, lowValue, highDigit, lowDigit, rfl⟩
  refine ⟨run, behind, rfl, ?_, behindUnescaped⟩
  rw [← utf8Bytes_eq_utf8EncodeChar, split]
  exact .cons highDigit lowDigit escapes

/-- A text that yields the bytes of a text stands for that text.  A run of escapes is cut off as a
whole, so the recursion is on the length of what is left. -/
theorem decodes_of_unescapedBytes? (ascii : ∀ b, preserves b = true → b < 0x80)
    (s t : List Char) (unescaped : unescapedBytes? preserves s = some (t.flatMap utf8Bytes)) :
    Decodes (fun c => preserves c.toNat = true) s t := by
  rcases unescapedBytes?_eq_some_cases unescaped with ⟨rfl, none⟩ |
    ⟨c, rest, more, rfl, first, restUnescaped, bytes_eq⟩ |
    ⟨high, low, rest, b, more, rfl, read, restUnescaped, bytes_eq⟩
  · cases t with
    | nil => exact .nil
    | cons c t => simp [utf8Bytes_ne_nil] at none
  · have front : [c].flatMap utf8Bytes ++ more = t.flatMap utf8Bytes := by
      simpa using bytes_eq.symm
    rcases exists_append_of_flatMap_utf8Bytes front with ⟨t, rfl, rfl⟩
    exact .plain first (decodes_of_unescapedBytes? ascii rest t restUnescaped)
  · by_cases kept : preserves b = true
    · rw [if_pos kept] at bytes_eq
      rcases exists_append_of_flatMap_utf8Bytes bytes_eq.symm with ⟨t, rfl, rfl⟩
      rcases escapes_ofNat read (ascii b kept) with ⟨code, escapes⟩
      exact .kept (by rwa [code]) escapes (decodes_of_unescapedBytes? ascii rest t restUnescaped)
    · rw [if_neg kept] at bytes_eq
      cases t with
      | nil => cases bytes_eq
      | cons c t =>
          rw [List.flatMap_cons] at bytes_eq
          rcases exists_escapes_of_utf8Bytes read restUnescaped bytes_eq with
            ⟨run, rest, rfl, escapes, behindUnescaped⟩
          have first : ¬ preserves c.toNat = true := by
            intro first
            rw [utf8Bytes_of_lt (ascii _ first)] at bytes_eq
            rcases List.cons.inj bytes_eq with ⟨rfl, -⟩
            exact kept first
          exact .escaped first escapes (decodes_of_unescapedBytes? ascii rest t behindUnescaped)
termination_by s.length

/-- Decoding gives what a text stands for, and fails where it stands for nothing. -/
theorem percentDecode?_eq_some_iff (ascii : ∀ b, preserves b = true → b < 0x80)
    {s t : List Char} :
    percentDecode? preserves s = some t ↔ Decodes (fun c => preserves c.toNat = true) s t := by
  rw [percentDecode?, Option.bind_eq_some_iff]
  simp only [ofUtf8?_eq_some_iff]
  constructor
  · rintro ⟨_, decoded, rfl⟩
    exact decodes_of_unescapedBytes? ascii s t decoded
  · intro decoded
    exact ⟨_, unescapedBytes?_of_decodes ascii decoded, rfl⟩

end Bytes

theorem lt_of_mem_uriDelimiters (b : Nat)
    (isDelimiter : (uriDelimiters.map Char.toNat).contains b = true) : b < 0x80 := by
  revert b
  simp [uriDelimiters]

/-- What the two decoders accept and what they give: characters other than `%` and runs of escapes
that spell all bytes of a character, of which the decoder for whole addresses keeps those of
delimiters. -/
theorem decodeUri_iff_decodes (s t : List Char) :
    (decodeUriComponent? s = some t ↔ Decodes (fun _ => False) s t) ∧
    (decodeUri? s = some t ↔
      Decodes (· ∈ [';', '/', '?', ':', '@', '&', '=', '+', '$', ',', '#']) s t) := by
  constructor
  · rw [decodeUriComponent?, percentDecode?_eq_some_iff (by simp)]
    simp
  · rw [decodeUri?, percentDecode?_eq_some_iff lt_of_mem_uriDelimiters]
    simp only [List.contains_iff_mem, List.mem_map, Char.toNat_inj, exists_eq_right, uriDelimiters]

end Stencil.Text
