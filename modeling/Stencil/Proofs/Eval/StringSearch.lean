import Stencil.Eval.Method
import Stencil.Proofs.Number.Rounding
import Stencil.Proofs.Text.Search

/-!
# Searches in strings

The methods that look for a text in a string answer with the least or the greatest position at which
the text stands, or say whether it stands at a position.  A start may be any number: it counts
without its fraction and is moved into the string, so that nothing beyond the string is looked at.

The method that splits a string, the one that joins an array of strings and the two that replace a
text find the same occurrences: from the left, without overlaps.
-/

namespace Stencil

open Text

/-! ## Starts -/

namespace Binary64

/-- The position in a text of some length that a number stands for: the number without its fraction,
moved into the text.  What is not a number stands for the front. -/
def positionIn (x : Binary64) (length : ℕ) : ℕ :=
  if x.isNaN || x.negative then 0
  else if x.isInfinite then length
  else min ⌊x.magnitude⌋₊ length

variable {x : Binary64}

/-- The whole part of a number has the number's sign. -/
theorem toNat_toInt (x : Binary64) :
    x.toInt.toNat = if x.negative then 0 else ⌊x.magnitude⌋₊ := by
  rw [toInt_eq, ← ratio_eq_magnitude, Nat.floor_div_eq_div]
  split
  · exact Int.toNat_of_nonpos (Int.neg_nonpos_of_nonneg (Int.natCast_nonneg _))
  · exact Int.toNat_natCast _

theorem clamp_toWhole (x : Binary64) (length : ℕ) :
    x.toWhole.clamp length = x.positionIn length := by
  rw [toWhole, positionIn]
  by_cases notNumber : x.isNaN
  · simp [notNumber, Whole.clamp]
  · by_cases infinite : x.isInfinite
    · simp [notNumber, infinite, Whole.clamp]
    · rw [if_neg notNumber, if_neg infinite, Whole.clamp, toNat_toInt]
      cases sign : x.negative <;> simp [notNumber, infinite]

theorem positionIn_le (x : Binary64) (length : ℕ) : x.positionIn length ≤ length :=
  x.clamp_toWhole length ▸ Whole.clamp_le length x.toWhole

theorem negative_pack (negative : Bool) (significand : ℕ) (scale : ℤ) :
    (pack negative significand scale).negative = negative := by
  unfold pack
  dsimp only
  split_ifs <;> rfl

theorem negative_round (negative : Bool) (num den : ℕ) :
    (round negative num den).negative = negative := by
  unfold round
  split
  · rfl
  · exact negative_pack _ _ _

end Binary64

/-- No position is minus one. -/
theorem Value.nat_ne_minus_one (i : ℕ) : Value.nat i ≠ .int (-1) := by
  intro same
  have sign := congrArg Binary64.negative (Value.number.inj same)
  rw [Binary64.ofNat, Binary64.ofInt, Binary64.negative_round, Binary64.negative_round] at sign
  cases sign

/-! ## Answers -/

namespace StringMethod

/-- The arguments of a search: a text and, if there is one, a number to start at. -/
def searchArguments (needle : String) (start : Option Binary64) : Arguments :=
  .string needle :: (start.map Value.number).toList

/-- The best of some positions, if there are any. -/
inductive Best (isBest : Set ℕ → ℕ → Prop) (positions : Set ℕ) : Option ℕ → Prop where
  | position {i : ℕ} : isBest positions i → Best isBest positions (some i)
  | nowhere : positions = ∅ → Best isBest positions none

/-- What the searches for a text answer that start at a position or end there. -/
structure Searches (call : String → Option (Outcome Value)) (s needle : List Char)
    (start stop : ℕ) : Prop where
  /-- The first position is the least one, and slices inside the text suffice to find it. -/
  indexOf : ∃ first,
    call "indexOf" = some (.ok (found first)) ∧
      Best IsLeast {i | start ≤ i ∧ OccursAt needle s i} first ∧
      (needle = [] → first = some start) ∧
      searchSlices? needle s (forwards start needle.length s.length) = some first
  includes : ∃ answer,
    call "includes" = some (.ok (.bool answer)) ∧
      (answer = true ↔ call "indexOf" ≠ some (.ok (.int (-1))))
  /-- The last position is the greatest one, and slices inside the text suffice to find it. -/
  lastIndexOf : ∃ last,
    call "lastIndexOf" = some (.ok (found last)) ∧
      Best IsGreatest {i | i ≤ stop ∧ OccursAt needle s i} last ∧
      (needle.length ≤ s.length →
        searchSlices? needle s (backwards stop needle.length s.length) = some last)
  startsWith : ∃ answer rest,
    call "startsWith" = some (.ok (.bool answer)) ∧ slice? s start s.length = some rest ∧
      (answer = true ↔ OccursAt needle s start)
  endsWith : ∃ answer front,
    call "endsWith" = some (.ok (.bool answer)) ∧ slice? s 0 stop = some front ∧
      (answer = true ↔ ∃ i, i + needle.length = stop ∧ OccursAt needle s i)

variable {s needle : List Char} {start stop : ℕ}

theorem best_findFrom (inside : start ≤ s.length) :
    Best IsLeast {i | start ≤ i ∧ OccursAt needle s i} (findFrom needle s start) := by
  cases found : findFrom needle s start with
  | none =>
      refine .nowhere (Set.eq_empty_of_forall_notMem ?_)
      rintro i ⟨behind, occurs⟩
      exact (findFrom_eq_none_iff inside).mp found i behind occurs
  | some i => exact .position (isLeast_of_findFrom inside found)

theorem best_findLast (stop : ℕ) :
    Best IsGreatest {i | i ≤ stop ∧ OccursAt needle s i} (findLast needle stop s) := by
  cases found : findLast needle stop s with
  | none =>
      refine .nowhere (Set.eq_empty_of_forall_notMem ?_)
      rintro i ⟨bound, occurs⟩
      exact findLast_eq_none_iff.mp found i bound occurs
  | some i => exact .position (isGreatest_of_findLast found)

/-- The empty text stands everywhere. -/
theorem findFrom_nil (inside : start ≤ s.length) : findFrom [] s start = some start := by
  have here : OccursAt [] s start := occursAt_iff.mpr ⟨inside, List.nil_prefix⟩
  cases found : findFrom [] s start with
  | none => exact absurd here ((findFrom_eq_none_iff inside).mp found start le_rfl)
  | some i =>
      have least := isLeast_of_findFrom inside found
      rw [le_antisymm (least.2 ⟨le_rfl, here⟩) least.1.1]

/-- A position is found exactly if the answer is another one than minus one. -/
theorem isSome_iff_answer_ne (first : Option ℕ) :
    first.isSome = true ↔
      some (.ok (found first) : Outcome Value) ≠ some (.ok (.int (-1))) := by
  rw [ne_eq, Option.some.injEq, Except.ok.injEq]
  cases first with
  | none => exact iff_of_false nofun (absurd rfl)
  | some i => exact iff_of_true rfl (Value.nat_ne_minus_one i)

theorem isPrefixOf_drop_iff (inside : start ≤ s.length) :
    needle.isPrefixOf (s.drop start) = true ↔ OccursAt needle s start := by
  rw [List.isPrefixOf_iff_prefix, occursAt_iff, and_iff_right inside]

theorem isSuffixOf_take_iff (inside : stop ≤ s.length) :
    needle.isSuffixOf (s.take stop) = true ↔
      ∃ i, i + needle.length = stop ∧ OccursAt needle s i := by
  rw [List.isSuffixOf_iff_suffix]
  constructor
  · rintro ⟨before, split⟩
    have length := congrArg List.length split
    rw [List.length_append, List.length_take_of_le inside] at length
    refine ⟨before.length, length, before, s.drop stop, ?_, rfl⟩
    rw [← List.append_assoc, split, List.take_append_drop]
  · rintro ⟨i, rfl, before, after, rfl, rfl⟩
    refine ⟨before, ?_⟩
    rw [← List.append_assoc, ← List.length_append, List.take_left]

/-- The position that a start argument stands for, and `default` without one. -/
def startIn (start : Option Binary64) (length default : ℕ) : ℕ :=
  start.elim default fun x => x.positionIn length

theorem startIn_le (start : Option Binary64) {length default : ℕ} (inside : default ≤ length) :
    startIn start length default ≤ length := by
  cases start with
  | none => exact inside
  | some x => exact x.positionIn_le length

/-! ## Methods -/

theorem clamp_whole (needle : String) (start : Option Binary64) (length : ℕ) (default : Whole) :
    ((searchArguments needle start).whole 1 default).clamp length =
      startIn start length (default.clamp length) := by
  cases start with
  | none => rfl
  | some x => exact x.clamp_toWhole length

theorem indexOf?_eq (s : List Char) (needle : String) (start : Option Binary64) :
    indexOf? s (searchArguments needle start) =
      findFrom needle.toList s (startIn start s.length 0) :=
  congrArg (findFrom needle.toList s) (clamp_whole needle start s.length (.finite 0))

theorem lastIndexOf?_eq (s : List Char) (needle : String) (start : Option Binary64) :
    lastIndexOf? s (searchArguments needle start) =
      findLast needle.toList (startIn start s.length s.length) s :=
  congrArg (findLast needle.toList · s) (clamp_whole needle start s.length (.infinite false))

theorem startsWith_eq (s : List Char) (needle : String) (start : Option Binary64) :
    startsWith s (searchArguments needle start) =
      needle.toList.isPrefixOf (s.drop (startIn start s.length 0)) :=
  congrArg (needle.toList.isPrefixOf <| s.drop ·) (clamp_whole needle start s.length (.finite 0))

theorem endsWith_eq (s : List Char) (needle : String) (start : Option Binary64) :
    endsWith s (searchArguments needle start) =
      needle.toList.isSuffixOf (s.take (startIn start s.length s.length)) :=
  congrArg (needle.toList.isSuffixOf <| s.take ·)
    (clamp_whole needle start s.length (.infinite false))

end StringMethod

open StringMethod
open Calendar (Instant)

/-- Searches in strings are extremal.  Without a start, those that look forwards start at the front
of the string, and those that look backwards behind its last character. -/
theorem Value.method_searches (s needle : String) (start : Option Binary64) (now : Instant) :
    Searches (fun name => (string s).method? now (searchArguments needle start) name)
      s.toList needle.toList (startIn start s.toList.length 0)
      (startIn start s.toList.length s.toList.length) := by
  have inside := startIn_le start (Nat.zero_le s.toList.length)
  have stopInside := startIn_le start (Nat.le_refl s.toList.length)
  constructor
  · refine ⟨_, rfl, ?_⟩
    rw [indexOf?_eq]
    refine ⟨best_findFrom inside, fun empty => ?_, searchSlices?_forwards inside⟩
    rw [empty]
    exact findFrom_nil inside
  · exact ⟨_, rfl, isSome_iff_answer_ne _⟩
  · refine ⟨_, rfl, ?_⟩
    rw [lastIndexOf?_eq]
    exact ⟨best_findLast _, searchSlices?_backwards⟩
  · refine ⟨_, _, rfl, if_pos ⟨inside, le_rfl⟩, ?_⟩
    rw [startsWith_eq]
    exact isPrefixOf_drop_iff inside
  · refine ⟨_, _, rfl, if_pos ⟨Nat.zero_le _, stopInside⟩, ?_⟩
    rw [endsWith_eq]
    exact isSuffixOf_take_iff stopInside

/-! ## Splitting and replacing -/

namespace ArrayMethod

theorem texts_map_chars (parts : List (List Char)) :
    Value.texts (parts.map Value.chars) = parts.map String.ofList := by
  induction parts with
  | nil => rfl
  | cons part rest ih =>
      rw [List.map_cons, List.map_cons, Value.texts, ih]
      rfl

theorem join_map_chars (parts : List (List Char)) (separator : String) :
    join (parts.map Value.chars) [.string separator] =
      String.ofList (separator.toList.intercalate parts) := by
  apply String.toList_injective
  rw [join, texts_map_chars, String.toList_ofList]
  change (separator.intercalate (parts.map String.ofList)).toList = _
  rw [String.toList_intercalate, List.map_map]
  simp

theorem method?_join (now : Instant) (parts : List (List Char)) (separator : String) :
    (Value.array (parts.map .chars)).method? now [.string separator] "join" =
      some (.ok (.chars (separator.toList.intercalate parts))) :=
  congrArg (fun joined : String => some (Except.ok (Value.string joined)))
    (join_map_chars parts separator)

end ArrayMethod

namespace StringMethod

theorem split_eq (s : List Char) (separator : String) :
    split s [.string separator] = splitOn separator.toList s :=
  List.take_length

theorem method?_split (now : Instant) (s separator : String) :
    (Value.string s).method? now [.string separator] "split" =
      some (.ok (.array ((splitOn separator.toList s.toList).map .chars))) :=
  congrArg (fun parts : List (List Char) => some (Except.ok (Value.array (parts.map Value.chars))))
    (split_eq s.toList separator)

/-- What the methods answer that split a string into parts, join them again and replace. -/
structure Splitting (now : Instant) (s separator : String) (parts : List (List Char)) :
    Prop where
  split : (Value.string s).method? now [.string separator] "split" =
    some (.ok (.array (parts.map .chars)))
  join : (Value.array (parts.map .chars)).method? now [.string separator] "join" =
    some (.ok (.string s))
  /-- The parts stand between the occurrences that are found from the left. -/
  splits : separator ≠ "" → Splits separator.toList s.toList parts
  separate : separator ≠ "" → ∀ part ∈ parts, ¬ separator.toList <:+: part
  replaceAll : separator ≠ "" → ∀ replacement : String, ∃ replaced : String,
    (Value.string s).method? now [.string separator, .string replacement] "replaceAll" =
      some (.ok (.string replaced)) ∧
    (Value.array (parts.map .chars)).method? now [.string replacement] "join" =
      some (.ok (.string replaced))
  /-- Only the first occurrence is replaced, and that of the empty separator is at the front. -/
  replace : ∀ replacement : String, ∃ replaced : List Char,
    (Value.string s).method? now [.string separator, .string replacement] "replace" =
      some (.ok (.chars replaced)) ∧
    ReplacesFirst separator.toList replacement.toList s.toList replaced

end StringMethod

/-- Splitting is undone by joining and underlies replacing. -/
theorem Value.method_splits (s separator : String) (now : Instant) :
    ∃ parts, Splitting now s separator parts := by
  have toList_ne_nil (nonempty : separator ≠ "") : separator.toList ≠ [] := by
    rwa [ne_eq, String.toList_eq_nil_iff]
  use splitOn separator.toList s.toList
  constructor
  · exact method?_split now s separator
  · rw [ArrayMethod.method?_join, intercalate_splitOn, Value.chars, String.ofList_toList]
  · intro nonempty
    exact splits_splitOn (toList_ne_nil nonempty) s.toList
  · intro nonempty
    exact (splits_splitOn (toList_ne_nil nonempty) s.toList).not_infix_of_mem
      (toList_ne_nil nonempty)
  · intro nonempty replacement
    have splits := splits_splitOn (toList_ne_nil nonempty) s.toList
    use String.ofList (replacement.toList.intercalate (splitOn separator.toList s.toList))
    constructor
    · rw [← splits.replaceAll_eq (toList_ne_nil nonempty)]
      rfl
    · exact ArrayMethod.method?_join now _ replacement
  · intro replacement
    use replaceFirst separator.toList replacement.toList s.toList
    constructor
    · rfl
    · exact replacesFirst_replaceFirst separator.toList replacement.toList s.toList

end Stencil
