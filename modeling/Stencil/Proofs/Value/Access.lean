import Stencil.Eval.Operator
import Stencil.Proofs.Number.Output
import Stencil.Proofs.Number.WholeText
import Stencil.Proofs.Value.Enumeration

/-!
# Access by keys

A key selects an element of an array or a character of a string by its position.  Enumeration writes
positions as numerals, but access also takes numerals with a plus sign or zeros in front, and these
are the keys on which the two disagree.  The output form of a number is never such a key.
-/

namespace Stencil

open Number (IsPadded numeral readPosition?)

/-! ## Numbers as keys -/

namespace Number

theorem numeral_ne {key : String} {c : Char} (mem : c ∈ key.toList)
    (notDigit : Text.isDigit c = false)
    (n : ℕ) : key ≠ numeral n := by
  rintro rfl
  rw [toList_numeral] at mem
  exact Bool.false_ne_true (notDigit.symm.trans (all_isDigit_natText n c mem))

/-- A padded numeral begins with a plus sign, or with a zero in front of a digit. -/
theorem IsPadded.exists_cons {key : String} {n : ℕ} (padded : IsPadded key n) :
    ∃ first rest, key.toList = first :: rest ∧
      (first = '+' ∨ first = '0' ∧ ∃ c more, rest = c :: more ∧ Text.isDigit c = true) := by
  rcases padded with ⟨sign, isSign, zeros, notPlain, split⟩
  simp only [List.mem_cons, List.not_mem_nil, or_false] at isSign
  rcases isSign with rfl | rfl
  · rcases Nat.exists_eq_succ_of_ne_zero fun none => notPlain ⟨rfl, none⟩ with ⟨zeros, rfl⟩
    have all := allDigits_zeros_append zeros n
    rcases List.exists_cons_of_ne_nil (zeros_append_ne_nil zeros n) with ⟨c, more, digits_eq⟩
    refine ⟨'0', c :: more, by rw [split, ← digits_eq]; rfl, .inr ⟨rfl, c, more, rfl, ?_⟩⟩
    exact all c (digits_eq ▸ List.mem_cons_self)
  · exact ⟨'+', _, split, .inl rfl⟩

theorem not_isPadded_length (n : ℕ) : ¬ IsPadded "length" n := by
  intro padded
  rcases padded.exists_cons with ⟨first, rest, split, rfl | ⟨rfl, -⟩⟩
  · cases split
  · cases split

end Number

/-- A proper spelling begins with a digit, which is zero only in front of a point, in front of the
mark of an exponent or alone. -/
theorem Spelling.not_isPadded {s : Spelling} (proper : s.IsProper) {key : String}
    (written : key.toList = s.text) (n : ℕ) : ¬ IsPadded key n := by
  intro padded
  rcases padded.exists_cons with ⟨first, rest, split, begins⟩
  rw [written, text] at split
  rcases proper.leading with zero | ⟨digit, digits, whole, notZero⟩
  · rw [zero] at split
    rcases List.cons.inj split with ⟨rfl, rest_eq⟩
    rcases begins with isSign | ⟨-, c, more, rfl, isDigit⟩
    · cases isSign
    · change fractionText s.fraction ++ exponentText s.exponent = c :: more at rest_eq
      rw [fractionText] at rest_eq
      split at rest_eq
      · cases exponent_eq : s.exponent with
        | none =>
            rw [exponent_eq] at rest_eq
            cases rest_eq
        | some e =>
            rw [exponent_eq] at rest_eq
            cases rest_eq
            cases isDigit
      · cases rest_eq
        cases isDigit
  · have small : digit < 10 := proper.small digit (by rw [whole]; simp)
    rw [whole] at split
    rcases List.cons.inj split with ⟨rfl, -⟩
    rcases begins with isSign | ⟨isZero, -⟩
    · have isDigit := Number.isDigit_digitChar small
      rw [isSign] at isDigit
      cases isDigit
    · exact notZero ((Number.digitChar_inj small (by decide)).mp isZero)

theorem Binary64.not_isPadded_toText (x : Binary64) (n : ℕ) : ¬ IsPadded x.toText n := by
  rcases x.toText_cases with word | ⟨s, proper, written | written⟩
  · intro padded
    rcases padded.exists_cons with ⟨first, rest, split, begins⟩
    simp only [List.mem_cons, List.not_mem_nil, or_false] at word
    rcases word with word | word | word | word
    all_goals
      rw [word] at split
      rcases begins with rfl | ⟨rfl, c, more, rfl, -⟩ <;> cases split
  · exact Spelling.not_isPadded proper written n
  · intro padded
    rcases padded.exists_cons with ⟨first, rest, split, begins⟩
    rcases List.cons.inj (written.symm.trans split) with ⟨rfl, -⟩
    rcases begins with isSign | ⟨isZero, -⟩
    · cases isSign
    · cases isZero

theorem Binary64.toText_ne_length (x : Binary64) : x.toText ≠ "length" := by
  intro equal
  rcases x.toText_cases with word | ⟨s, proper, written | written⟩
  · rw [equal] at word
    exact absurd word (by decide)
  · rcases Spelling.exists_text_eq_cons proper with ⟨c, more, split, isDigit⟩
    rw [equal, split] at written
    cases written
    cases isDigit
  · rw [equal] at written
    cases written

namespace Value

variable {v : Value} {items : List Value} {entry : Value × Value} {key : String} {i : ℕ}

/-! ## Elements and their positions -/

/-- The elements of an array, and the characters of a string. -/
def elements? : Value → Option (List Value)
  | array items => some items
  | string s => some (s.toList.map char)
  | _ => none

theorem entries?_of_elements? (elements : v.elements? = some items) :
    v.entries? = some (positioned 0 items) := by
  cases v <;> cases elements <;> rfl

/-- The entries are the elements with their positions. -/
theorem mem_positioned_iff :
    entry ∈ positioned 0 items ↔ ∃ i, entry.1 = nat i ∧ items[i]? = some entry.2 := by
  rcases entry with ⟨position, element⟩
  rw [positioned_eq_map_zipIdx, List.mem_map]
  constructor
  · rintro ⟨⟨item, i⟩, mem, pair_eq⟩
    cases pair_eq
    exact ⟨i, rfl, List.mem_zipIdx_iff_getElem?.mp mem⟩
  · rintro ⟨i, rfl, found⟩
    exact ⟨(element, i), List.mem_zipIdx_iff_getElem?.mpr found, rfl⟩

/-- The output form of a position is its numeral. -/
theorem text_position (short : items.length ≤ 2 ^ 53) {element : Value}
    (found : items[i]? = some element) : (nat i).text = numeral i := by
  have inside : i < items.length := (List.getElem?_eq_some_iff.mp found).1
  exact Binary64.toText_ofNat (inside.trans_le short)

theorem text_of_mem_positioned (short : items.length ≤ 2 ^ 53) (mem : entry ∈ positioned 0 items) :
    ∃ i, entry.1.text = numeral i ∧ items[i]? = some entry.2 := by
  rcases mem_positioned_iff.mp mem with ⟨i, position, found⟩
  rw [position]
  exact ⟨i, text_position short found, found⟩

/-! ## Access -/

theorem property_of_elements? (elements : v.elements? = some items) (notLength : key ≠ "length") :
    v.property key = ((readPosition? key).bind (items[·]?)).getD undefined := by
  cases v with
  | array items =>
      cases elements
      rw [property, if_neg notLength]
  | string s =>
      cases elements
      rw [property, if_neg notLength]
      cases readPosition? key with
      | none => rfl
      | some i => rw [Option.bind_some, Option.bind_some, List.getElem?_map]
  | _ => cases elements

theorem property_of_isPadded (elements : v.elements? = some items) (padded : IsPadded key i) :
    v.property key = items[i]?.getD undefined := by
  have notLength : key ≠ "length" := by
    rintro rfl
    exact Number.not_isPadded_length i padded
  rw [property_of_elements? elements notLength,
    Number.readPosition?_eq_some_iff.mpr (.inr padded), Option.bind_some]

theorem property_numeral (elements : v.elements? = some items) (i : ℕ) :
    v.property (numeral i) = items[i]?.getD undefined := by
  have notLength : numeral i ≠ "length" :=
    (Number.numeral_ne (by decide : 'l' ∈ "length".toList) rfl i).symm
  rw [property_of_elements? elements notLength,
    Number.readPosition?_eq_some_iff.mpr (.inl rfl), Option.bind_some]

/-- The property of a key is what entries pair with a position that is written as the key, and
`undefined` if there is no such position. -/
structure AgreesAt (v : Value) (entries : List (Value × Value)) (key : String) : Prop where
  listed : ∀ entry ∈ entries, entry.1.text = key → v.property key = entry.2
  absent : (∀ entry ∈ entries, entry.1.text ≠ key) → v.property key = undefined

theorem agreesAt_of_not_isPadded (elements : v.elements? = some items)
    (short : items.length ≤ 2 ^ 53) (notLength : key ≠ "length")
    (notPadded : ∀ i, ¬ IsPadded key i) : AgreesAt v (positioned 0 items) key where
  listed entry mem written := by
    rcases text_of_mem_positioned short mem with ⟨i, position, found⟩
    rw [← written, position, property_numeral elements, found, Option.getD_some]
  absent none := by
    rw [property_of_elements? elements notLength]
    cases read : readPosition? key with
    | none => rfl
    | some i =>
        have key_eq := (Number.readPosition?_eq_some_iff.mp read).resolve_right (notPadded i)
        rw [Option.bind_some]
        cases found : items[i]? with
        | none => rfl
        | some element =>
            -- A position with an element is listed, and is written as the key.
            have written : (nat i).text = key := (text_position short found).trans key_eq.symm
            exact absurd written (none (nat i, element) (mem_positioned_iff.mpr ⟨i, rfl, found⟩))

theorem text_ne_of_isPadded (short : items.length ≤ 2 ^ 53) (padded : IsPadded key i) :
    ∀ entry ∈ positioned 0 items, entry.1.text ≠ key := by
  rintro entry mem rfl
  rcases text_of_mem_positioned short mem with ⟨j, position, -⟩
  rw [position] at padded
  exact Number.not_isPadded_numeral j i padded

/-! ## Keys of arrays -/

/-- What `Object.keys` lists of an array. -/
theorem mem_keys_iff (short : items.length ≤ 2 ^ 53) :
    key ∈ (positioned 0 items).map (fun entry => entry.1.text) ↔
      ∃ i < items.length, key = numeral i := by
  rw [List.mem_map]
  constructor
  · rintro ⟨entry, mem, rfl⟩
    rcases text_of_mem_positioned short mem with ⟨i, position, found⟩
    exact ⟨i, (List.getElem?_eq_some_iff.mp found).1, position⟩
  · rintro ⟨i, inside, rfl⟩
    have found : items[i]? = some items[i] := List.getElem?_eq_getElem inside
    exact ⟨(nat i, items[i]), mem_positioned_iff.mpr ⟨i, rfl, found⟩, text_position short found⟩

theorem apply_in_array (left : Value) (items : List Value) (rightText : String) :
    ∃ present, BinaryOp.in.apply left (array items) rightText = .ok (bool present) ∧
      (present = true ↔
        left.text = "length" ∨ ∃ i < items.length, readPosition? left.text = some i) := by
  refine ⟨_, rfl, ?_⟩
  cases readPosition? left.text with
  | none => simp
  | some i => simp

/-- The keys of an array are those that `Object.keys` lists, `length`, and padded numerals of
positions in it. -/
theorem apply_in_array_iff (short : items.length ≤ 2 ^ 53) (left : Value) (rightText : String) :
    ∃ present, BinaryOp.in.apply left (array items) rightText = .ok (bool present) ∧
      (present = true ↔ left.text = "length" ∨
        left.text ∈ (positioned 0 items).map (fun entry => entry.1.text) ∨
        ∃ i < items.length, IsPadded left.text i) := by
  rcases apply_in_array left items rightText with ⟨present, applied, answer⟩
  refine ⟨present, applied, answer.trans (or_congr_right ?_)⟩
  rw [mem_keys_iff short, ← exists_or]
  refine exists_congr fun i => ?_
  rw [← and_or_left, Number.readPosition?_eq_some_iff]

/-- Access to the elements of an array and to the characters of a string.

- A key other than `length` that is not a padded numeral selects what entries pair with a position
  that is written as the key.
- A padded numeral selects an element as well, but no position is written so.
- Numbers as keys select what entries pair with their output forms.
- Of an array, `in` finds the keys that `Object.keys` lists, `length`, and the padded numerals that
  select an element. -/
theorem access_by_keys (elements : v.elements? = some items) (short : items.length ≤ 2 ^ 53) :
    ∃ entries, v.entries? = some entries ∧
      (∀ key, key ≠ "length" → (∀ i, ¬ IsPadded key i) → AgreesAt v entries key) ∧
      (∀ key i, IsPadded key i → v.property key = items[i]?.getD undefined ∧
        ∀ entry ∈ entries, entry.1.text ≠ key) ∧
      (∀ n, v.index (number n) = v.property n.toText ∧ AgreesAt v entries n.toText) ∧
      (∀ now, v = array items → ∃ keys : List String,
        Builtin.callMember now [v] .object "keys" = .ok (array (keys.map string)) ∧
        (∀ key i, IsPadded key i → key ∉ keys) ∧
        ∀ left rightText, ∃ present,
          BinaryOp.in.apply left v rightText = .ok (bool present) ∧
          (present = true ↔ left.text = "length" ∨ left.text ∈ keys ∨
            ∃ i < items.length, IsPadded left.text i)) := by
  have listed := entries?_of_elements? elements
  refine ⟨positioned 0 items, listed, fun key => agreesAt_of_not_isPadded elements short,
    ?_, ?_, ?_⟩
  · intro key i padded
    exact ⟨property_of_isPadded elements padded, text_ne_of_isPadded short padded⟩
  · intro n
    exact ⟨rfl, agreesAt_of_not_isPadded elements short n.toText_ne_length n.not_isPadded_toText⟩
  · rintro now rfl
    refine ⟨(positioned 0 items).map fun entry => entry.1.text, ?_, ?_, apply_in_array_iff short⟩
    · rw [List.map_map]
      exact (enumerates_of_entries? listed).keys now []
    · intro key i padded mem
      rcases List.mem_map.mp mem with ⟨entry, entryMem, written⟩
      exact text_ne_of_isPadded short padded entry entryMem written

/-- A plus sign in front of a position is passed over. -/
theorem access_by_keys_plus_sign : ∃ entries,
    (string "ab").elements? = some [char 'a', char 'b'] ∧ [char 'a', char 'b'].length ≤ 2 ^ 53 ∧
      (string "ab").entries? = some entries ∧ AgreesAt (string "ab") entries "1" ∧
      (string "ab").property "+1" = char 'b' ∧ ∀ entry ∈ entries, entry.1.text ≠ "+1" := by
  have padded : IsPadded "+1" 1 := ⟨['+'], by simp, 0, by simp, by decide +kernel⟩
  have one : "1" = numeral 1 := by decide +kernel
  rcases access_by_keys (v := string "ab") rfl (by decide) with
    ⟨entries, listed, unpadded, atPadded, -⟩
  refine ⟨entries, rfl, by decide, listed, unpadded "1" (by decide) ?_, atPadded "+1" 1 padded⟩
  rw [one]
  exact Number.not_isPadded_numeral 1

/-- Access and `in` take a key with a zero in front, which enumeration does not list. -/
theorem access_leading_zero : ∃ entries,
    (array [nat 10, nat 20]).entries? = some entries ∧
      entries.map (fun entry => entry.1.text) = ["0", "1"] ∧
      (array [nat 10, nat 20]).property "01" = nat 20 ∧
      ¬ AgreesAt (array [nat 10, nat 20]) entries "01" ∧
      BinaryOp.in.apply (string "01") (array [nat 10, nat 20]) "" = .ok (bool true) := by
  have keys : (positioned 0 [nat 10, nat 20]).map (fun entry => entry.1.text) = ["0", "1"] := by
    decide +kernel
  refine ⟨_, rfl, keys, rfl, fun agrees => ?_, rfl⟩
  have unlisted : ∀ entry ∈ positioned 0 [nat 10, nat 20], entry.1.text ≠ "01" := by
    rintro entry mem written
    have among := List.mem_map_of_mem (f := fun entry : Value × Value => entry.1.text) mem
    rw [keys, written] at among
    exact absurd among (by decide)
  cases agrees.absent unlisted

end Value

end Stencil
