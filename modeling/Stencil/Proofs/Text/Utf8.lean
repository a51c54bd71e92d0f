import Mathlib.Data.List.Basic
import Stencil.Text.Utf8

/-!
# Bytes of texts

The bytes of a character are a leading byte, which is never a continuation byte and tells how many
bytes follow, and continuation bytes.  So a list of bytes holds at most one text, and the decoder
finds exactly that one: `ofUtf8?_eq_some_iff`.
-/

namespace Stencil.Text

/-- Bytes that only occur behind the leading byte of a character. -/
def IsContinuation (b : Nat) : Prop :=
  0x80 ≤ b ∧ b < 0xC0

theorem isValidChar_toNat (c : Char) : c.toNat.isValidChar :=
  c.valid

theorem toNat_ofNat {n : Nat} (valid : n.isValidChar) : (Char.ofNat n).toNat = n := by
  rw [Char.ofNat, dif_pos valid]
  rfl

theorem charOfCode?_toNat (c : Char) : charOfCode? c.toNat = some c := by
  rw [charOfCode?, if_pos (isValidChar_toNat c), Char.ofNat_toNat]

theorem utf8Bytes_of_lt {c : Char} (single : c.toNat < 0x80) : utf8Bytes c = [c.toNat] := by
  simp [utf8Bytes, single]

/-- The bytes of a character, by their number. -/
theorem utf8Bytes_cases (c : Char) :
    (c.toNat < 0x80 ∧ utf8Bytes c = [c.toNat]) ∨
    (0x80 ≤ c.toNat ∧ c.toNat < 0x800 ∧
      utf8Bytes c = [0xC0 + c.toNat / 64, 0x80 + c.toNat % 64]) ∨
    (0x800 ≤ c.toNat ∧ c.toNat < 0x10000 ∧
      utf8Bytes c =
        [0xE0 + c.toNat / 4096, 0x80 + c.toNat / 64 % 64, 0x80 + c.toNat % 64]) ∨
    (0x10000 ≤ c.toNat ∧ c.toNat < 0x110000 ∧
      utf8Bytes c =
        [0xF0 + c.toNat / 262144, 0x80 + c.toNat / 4096 % 64, 0x80 + c.toNat / 64 % 64,
          0x80 + c.toNat % 64]) := by
  have valid := isValidChar_toNat c
  simp only [Nat.isValidChar] at valid
  unfold utf8Bytes
  by_cases one : c.toNat < 0x80
  · exact .inl ⟨one, by simp [one]⟩
  by_cases two : c.toNat < 0x800
  · exact .inr (.inl ⟨by omega, two, by simp [one, two]⟩)
  by_cases three : c.toNat < 0x10000
  · exact .inr (.inr (.inl ⟨by omega, three, by simp [one, two, three]⟩))
  · exact .inr (.inr (.inr ⟨by omega, by omega, by simp [one, two, three]⟩))

/-- The bytes of a character are those that the standard library gives. -/
theorem utf8Bytes_eq_utf8EncodeChar (c : Char) :
    utf8Bytes c = (String.utf8EncodeChar c).map UInt8.toNat := by
  have valid := isValidChar_toNat c
  simp only [Nat.isValidChar] at valid
  have code : c.val.toNat = c.toNat := rfl
  unfold utf8Bytes String.utf8EncodeChar
  simp only [code]
  split_ifs <;> first | omega | (simp; omega)

/-- What the leading byte of a character says about the bytes behind it, and what they add up
to. -/
structure Leads (lead : Nat) (rest : List Nat) (c : Char) : Prop where
  not_isContinuation : ¬ IsContinuation lead
  count : continuationCount? lead = some rest.length
  isContinuation : ∀ b ∈ rest, IsContinuation b
  code : codeOfBytes lead rest = c.toNat

theorem continuationCount?_of_lt (lead : Nat) :
    (lead < 0x80 → continuationCount? lead = some 0) ∧
    (0xC2 ≤ lead → lead < 0xE0 → continuationCount? lead = some 1) ∧
    (0xE0 ≤ lead → lead < 0xF0 → continuationCount? lead = some 2) ∧
    (0xF0 ≤ lead → lead < 0xF5 → continuationCount? lead = some 3) := by
  unfold continuationCount?
  grind

theorem exists_leads (c : Char) : ∃ lead rest, utf8Bytes c = lead :: rest ∧ Leads lead rest c := by
  rcases utf8Bytes_cases c with ⟨single, bytes⟩ | ⟨low, high, bytes⟩ | ⟨low, high, bytes⟩ |
    ⟨low, high, bytes⟩
  · refine ⟨_, _, bytes, ?_, (continuationCount?_of_lt _).1 single, by simp, rfl⟩
    simp only [IsContinuation]
    omega
  · refine ⟨_, _, bytes, ?_, (continuationCount?_of_lt _).2.1 (by omega) (by omega), ?_, ?_⟩ <;>
      simp [IsContinuation, codeOfBytes] <;> omega
  · refine ⟨_, _, bytes, ?_, (continuationCount?_of_lt _).2.2.1 (by omega) (by omega), ?_, ?_⟩ <;>
      simp [IsContinuation, codeOfBytes] <;> omega
  · refine ⟨_, _, bytes, ?_, (continuationCount?_of_lt _).2.2.2 (by omega) (by omega), ?_, ?_⟩ <;>
      simp [IsContinuation, codeOfBytes] <;> omega

theorem leads_of_utf8Bytes {c : Char} {lead : Nat} {rest : List Nat}
    (bytes : utf8Bytes c = lead :: rest) : Leads lead rest c := by
  rcases exists_leads c with ⟨_, _, split, leads⟩
  rw [bytes] at split
  rcases List.cons.inj split with ⟨rfl, rfl⟩
  exact leads

theorem utf8Bytes_ne_nil (c : Char) : utf8Bytes c ≠ [] := by
  rcases exists_leads c with ⟨lead, rest, bytes, -⟩
  simp [bytes]

/-- A leading byte and the bytes behind it are read as a character exactly if they are its
bytes. -/
theorem charOfBytes?_eq_some_iff {lead : Nat} {rest : List Nat} {c : Char} :
    charOfBytes? lead rest = some c ↔ utf8Bytes c = lead :: rest := by
  unfold charOfBytes?
  constructor
  · intro read
    split at read
    · exact beq_iff_eq.mp (Option.filter_eq_some_iff.mp read).2
    · cases read
  · intro bytes
    have leads := leads_of_utf8Bytes bytes
    have all : rest.all (fun b => decide (0x80 ≤ b) && decide (b < 0xC0)) = true := by
      simpa [IsContinuation] using leads.isContinuation
    rw [if_pos all, leads.code, charOfCode?_toNat]
    simp [bytes]

/-! ## Texts -/

@[simp]
theorem ofUtf8?_nil : ofUtf8? [] = some [] := by
  rw [ofUtf8?]

/-- The bytes of a character in front are read as that character. -/
theorem ofUtf8?_utf8Bytes_append (c : Char) (bytes : List Nat) :
    ofUtf8? (utf8Bytes c ++ bytes) = (ofUtf8? bytes).map (c :: ·) := by
  rcases exists_leads c with ⟨lead, rest, split, leads⟩
  rw [split, List.cons_append, ofUtf8?, leads.count]
  simp only [List.take_left, List.drop_left, charOfBytes?_eq_some_iff.mpr split]

/-- A list of bytes holds a text exactly if it is made of the bytes of its characters. -/
theorem ofUtf8?_eq_some_iff {bytes : List Nat} {t : List Char} :
    ofUtf8? bytes = some t ↔ bytes = t.flatMap utf8Bytes := by
  constructor
  · intro read
    fun_induction ofUtf8? bytes generalizing t with
    | case1 => simp_all
    | case2 => cases read
    | case3 => cases read
    | case4 lead rest count _ c first ih =>
        rcases Option.map_eq_some_iff.mp read with ⟨more, moreRead, rfl⟩
        rw [List.flatMap_cons, charOfBytes?_eq_some_iff.mp first, ← ih moreRead, List.cons_append,
          List.take_append_drop]
  · rintro rfl
    induction t with
    | nil => simp
    | cons c t ih => rw [List.flatMap_cons, ofUtf8?_utf8Bytes_append, ih, Option.map_some]

/-- A text whose bytes begin with those of another text begins with that text. -/
theorem exists_append_of_flatMap_utf8Bytes {front t : List Char} {more : List Nat}
    (bytes : front.flatMap utf8Bytes ++ more = t.flatMap utf8Bytes) :
    ∃ rest, t = front ++ rest ∧ more = rest.flatMap utf8Bytes := by
  induction front generalizing t with
  | nil => exact ⟨t, rfl, bytes⟩
  | cons c front ih =>
      have read := ofUtf8?_eq_some_iff.mpr bytes
      rw [List.flatMap_cons, List.append_assoc, ofUtf8?_utf8Bytes_append] at read
      rcases Option.map_eq_some_iff.mp read with ⟨others, othersRead, rfl⟩
      rcases ih (ofUtf8?_eq_some_iff.mp othersRead) with ⟨rest, rfl, more_eq⟩
      exact ⟨rest, rfl, more_eq⟩

/-! ## Parts of bytes -/

theorem firstCharacter?_append {c : Char} {lead : Nat} {rest : List Nat}
    (bytes : utf8Bytes c = lead :: rest) (more : List Nat) :
    firstCharacter? lead (rest ++ more) = some (c, rest.length) := by
  simp [firstCharacter?, (leads_of_utf8Bytes bytes).count, charOfBytes?_eq_some_iff.mpr bytes]

theorem utf8Parts_skipped (skipped more : List Nat) :
    utf8Parts skipped.length (skipped ++ more) = utf8Parts 0 more := by
  induction skipped with
  | nil => rfl
  | cons b skipped ih => rw [List.cons_append, List.length_cons, utf8Parts, ih]

/-- The parts of the bytes of a text are its characters. -/
theorem utf8Parts_flatMap_utf8Bytes (t : List Char) :
    utf8Parts 0 (t.flatMap utf8Bytes) = t.map .character := by
  induction t with
  | nil => rfl
  | cons c t ih =>
      rcases exists_leads c with ⟨lead, rest, bytes, -⟩
      rw [List.flatMap_cons, bytes, List.cons_append, utf8Parts, firstCharacter?_append bytes]
      simp only [utf8Parts_skipped, ih, List.map_cons]

end Stencil.Text

/-! ## Raw texts -/

namespace Stencil.RawText

variable {raw : RawText} {s : String}

theorem map_toNat_bytes_ofText (s : String) :
    (ofText s).bytes.map UInt8.toNat = s.toList.flatMap Text.utf8Bytes := by
  rw [ofText, List.map_flatMap]
  exact List.flatMap_congr fun c _ => (Text.utf8Bytes_eq_utf8EncodeChar c).symm

/-- A raw text is a text exactly if it is made of the bytes of that text. -/
theorem text?_eq_some_iff : raw.text? = some s ↔ raw = s := by
  rw [text?, Option.map_eq_some_iff]
  constructor
  · rintro ⟨t, read, rfl⟩
    have bytes := Text.ofUtf8?_eq_some_iff.mp read
    rw [← String.toList_ofList (l := t), ← map_toNat_bytes_ofText] at bytes
    rcases raw with ⟨raw⟩
    exact congrArg mk (List.map_injective_iff.mpr (fun _ _ => UInt8.toNat_inj.mp) bytes)
  · rintro rfl
    refine ⟨s.toList, ?_, String.ofList_toList⟩
    rw [Text.ofUtf8?_eq_some_iff, map_toNat_bytes_ofText]

@[simp]
theorem text?_ofText (s : String) : (ofText s).text? = some s :=
  text?_eq_some_iff.mpr rfl

@[simp]
theorem parts_ofText (s : String) : (ofText s).parts = s.toList.map .character := by
  rw [parts, map_toNat_bytes_ofText, Text.utf8Parts_flatMap_utf8Bytes]

/-- Nothing stands in place of the characters of a text. -/
@[simp]
theorem display_ofText (s : String) : (ofText s).display = s := by
  rw [display, parts_ofText, List.map_map]
  change String.ofList (s.toList.map id) = s
  rw [List.map_id, String.ofList_toList]

end Stencil.RawText
