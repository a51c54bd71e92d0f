import Mathlib.Order.Bounds.Basic
import Stencil.Proofs.Text.Occurrence
import Stencil.Text.Search

/-!
# Searching and splitting

Searching forwards finds the least position at which a text occurs, searching backwards the greatest
one.  Both searches can be run over slices of the text: a position at which the text that is
searched for still fits has a slice of its length, so that no slice reaches over the end.

A separator is looked for from the left, and behind an occurrence the search goes on where that
occurrence ends.  This matching alone decides into which parts a text is split.  Joining undoes it,
and the scan that replaces a separator by another text finds the same occurrences, so that it joins
the parts with that text.
-/

namespace Stencil.Text

/-- A text stands in another one at a position. -/
def OccursAt (needle s : List Char) (i : ℕ) : Prop :=
  ∃ before after, s = before ++ (needle ++ after) ∧ before.length = i

variable {needle s : List Char} {i j start limit : ℕ}

theorem occursAt_iff : OccursAt needle s i ↔ i ≤ s.length ∧ needle <+: s.drop i := by
  constructor
  · rintro ⟨before, after, rfl, rfl⟩
    exact ⟨by simp, by simp⟩
  · rintro ⟨inside, after, split⟩
    exact ⟨s.take i, after, by rw [split, List.take_append_drop], List.length_take_of_le inside⟩

instance (needle s : List Char) (i : ℕ) : Decidable (OccursAt needle s i) :=
  decidable_of_iff _ occursAt_iff.symm

/-- What occurs in a text ends in it. -/
theorem OccursAt.add_length_le (occurs : OccursAt needle s i) : i + needle.length ≤ s.length := by
  rcases occurs with ⟨before, after, rfl, rfl⟩
  simp only [List.length_append]
  omega

theorem occursAt_drop (inside : start ≤ s.length) :
    OccursAt needle (s.drop start) i ↔ OccursAt needle s (i + start) := by
  rw [occursAt_iff, occursAt_iff, List.drop_drop, List.length_drop, Nat.add_comm i start]
  exact and_congr_left' (by omega)

theorem occursAt_nil_iff : OccursAt needle [] i ↔ needle = [] ∧ i = 0 := by
  simp [occursAt_iff, and_comm]

theorem occursAt_cons_zero {c : Char} {rest : List Char} :
    OccursAt needle (c :: rest) 0 ↔ needle.isPrefixOf (c :: rest) = true := by
  simp [occursAt_iff]

theorem occursAt_cons_succ {c : Char} {rest : List Char} :
    OccursAt needle (c :: rest) (i + 1) ↔ OccursAt needle rest i := by
  simp [occursAt_iff]

/-! ## Forwards -/

theorem findFirst_eq_none_iff : findFirst needle s = none ↔ ∀ i, ¬ OccursAt needle s i := by
  induction s with
  | nil => simp [findFirst, occursAt_nil_iff]
  | cons c rest ih =>
      rw [findFirst, ← Nat.and_forall_add_one]
      simp only [occursAt_cons_zero, occursAt_cons_succ, ← ih]
      split <;> simp_all

/-- Searching forwards finds the least position. -/
theorem isLeast_of_findFirst (found : findFirst needle s = some i) :
    IsLeast {j | OccursAt needle s j} i := by
  induction s generalizing i with
  | nil =>
      rw [findFirst, Option.ite_none_right_eq_some, Option.some.injEq, List.isEmpty_iff] at found
      exact ⟨occursAt_nil_iff.mpr ⟨found.1, found.2.symm⟩, fun j _ => found.2 ▸ Nat.zero_le j⟩
  | cons c rest ih =>
      rw [findFirst] at found
      split at found
      · rename_i here
        rw [← Option.some.inj found]
        exact ⟨occursAt_cons_zero.mpr here, fun j _ => Nat.zero_le j⟩
      · rename_i notHere
        rcases Option.map_eq_some_iff.mp found with ⟨inner, further, rfl⟩
        refine ⟨occursAt_cons_succ.mpr (ih further).1, fun j occurs => ?_⟩
        cases j with
        | zero => exact absurd (occursAt_cons_zero.mp occurs) notHere
        | succ j => exact Nat.succ_le_succ ((ih further).2 (occursAt_cons_succ.mp occurs))

theorem findFrom_eq_none_iff (inside : start ≤ s.length) :
    findFrom needle s start = none ↔ ∀ i, start ≤ i → ¬ OccursAt needle s i := by
  rw [findFrom, Option.map_eq_none_iff, findFirst_eq_none_iff]
  simp only [occursAt_drop inside]
  constructor
  · intro nowhere i behind
    rw [← Nat.sub_add_cancel behind]
    exact nowhere (i - start)
  · intro nowhere i
    exact nowhere (i + start) (Nat.le_add_left start i)

theorem isLeast_of_findFrom (inside : start ≤ s.length) (found : findFrom needle s start = some i) :
    IsLeast {j | start ≤ j ∧ OccursAt needle s j} i := by
  rcases Option.map_eq_some_iff.mp found with ⟨inner, first, rfl⟩
  rcases isLeast_of_findFirst first with ⟨occurs, least⟩
  refine ⟨⟨Nat.le_add_left start inner, (occursAt_drop inside).mp occurs⟩, ?_⟩
  rintro j ⟨behind, also⟩
  rw [← Nat.sub_add_cancel behind] at also
  have := least ((occursAt_drop inside).mpr also)
  omega

/-! ## Backwards -/

theorem findLast_nil : findLast needle limit [] = if needle.isEmpty then some 0 else none := by
  cases limit <;> rfl

theorem findLast_eq_none_iff :
    findLast needle limit s = none ↔ ∀ i ≤ limit, ¬ OccursAt needle s i := by
  induction s generalizing limit with
  | nil =>
      rw [findLast_nil]
      simp only [occursAt_nil_iff]
      split <;> simp_all
  | cons c rest ih =>
      cases limit with
      | zero => simp [findLast, occursAt_cons_zero]
      | succ limit =>
          have nowhere : (∀ i ≤ limit + 1, ¬ OccursAt needle (c :: rest) i) ↔
              ¬ needle.isPrefixOf (c :: rest) = true ∧ findLast needle limit rest = none := by
            rw [ih, ← Nat.and_forall_add_one]
            simp [occursAt_cons_zero, occursAt_cons_succ]
          rw [nowhere, findLast]
          cases findLast needle limit rest <;> simp

/-- The front is the greatest position if nothing occurs behind it. -/
theorem isGreatest_zero (here : OccursAt needle s 0)
    (nowhere : ∀ j, 0 < j → j ≤ limit → ¬ OccursAt needle s j) :
    IsGreatest {j | j ≤ limit ∧ OccursAt needle s j} 0 := by
  refine ⟨⟨Nat.zero_le limit, here⟩, fun j occurs => Nat.le_of_not_lt fun behind => ?_⟩
  exact nowhere j behind occurs.1 occurs.2

theorem isGreatest_succ {c : Char} {rest : List Char}
    (greatest : IsGreatest {j | j ≤ limit ∧ OccursAt needle rest j} i) :
    IsGreatest {j | j ≤ limit + 1 ∧ OccursAt needle (c :: rest) j} (i + 1) := by
  rcases greatest with ⟨⟨bound, occurs⟩, last⟩
  refine ⟨⟨Nat.succ_le_succ bound, occursAt_cons_succ.mpr occurs⟩, ?_⟩
  rintro (_ | j) ⟨bound, also⟩
  · exact Nat.zero_le _
  · exact Nat.succ_le_succ (last ⟨Nat.le_of_succ_le_succ bound, occursAt_cons_succ.mp also⟩)

/-- Searching backwards finds the greatest position. -/
theorem isGreatest_of_findLast (found : findLast needle limit s = some i) :
    IsGreatest {j | j ≤ limit ∧ OccursAt needle s j} i := by
  induction s generalizing limit i with
  | nil =>
      rw [findLast_nil, Option.ite_none_right_eq_some, Option.some.injEq, List.isEmpty_iff] at found
      rw [← found.2]
      refine isGreatest_zero (occursAt_nil_iff.mpr ⟨found.1, rfl⟩) fun j behind _ occurs => ?_
      exact behind.ne' (occursAt_nil_iff.mp occurs).2
  | cons c rest ih =>
      cases limit with
      | zero =>
          rw [findLast, Option.ite_none_right_eq_some, Option.some.injEq] at found
          rw [← found.2]
          refine isGreatest_zero (occursAt_cons_zero.mpr found.1) fun j behind bound _ => ?_
          exact absurd behind bound.not_gt
      | succ limit =>
          rw [findLast] at found
          split at found
          · rename_i inner further
            rw [← Option.some.inj found]
            exact isGreatest_succ (ih further)
          · rename_i nothing
            rw [Option.ite_none_right_eq_some, Option.some.injEq] at found
            rw [← found.2]
            refine isGreatest_zero (occursAt_cons_zero.mpr found.1) ?_
            rintro (_ | j) behind bound occurs
            · exact absurd behind (Nat.lt_irrefl 0)
            · exact findLast_eq_none_iff.mp nothing j (Nat.le_of_succ_le_succ bound)
                (occursAt_cons_succ.mp occurs)

/-! ## Slices -/

/-- The characters from `start` up to `stop`, if the text reaches that far. -/
def slice? (s : List Char) (start stop : ℕ) : Option (List Char) :=
  if start ≤ stop ∧ stop ≤ s.length then some ((s.take stop).drop start) else none

/-- Compares a text with the slices of its length at some positions in turn, until one is equal.  A
slice that reaches over the end of the text refuses. -/
def searchSlices? (needle s : List Char) : List ℕ → Option (Option ℕ)
  | [] => some none
  | i :: positions =>
      (slice? s i (i + needle.length)).bind fun part =>
        if part = needle then some (some i) else searchSlices? needle s positions

theorem slice?_eq_iff (inside : i + needle.length ≤ s.length) :
    ∃ part, slice? s i (i + needle.length) = some part ∧ (part = needle ↔ OccursAt needle s i) := by
  refine ⟨_, if_pos ⟨Nat.le_add_right i _, inside⟩, ?_⟩
  rw [List.drop_take, Nat.add_sub_cancel_left, occursAt_iff, List.prefix_iff_eq_take, eq_comm]
  exact (and_iff_right (by omega)).symm

/-- Slices inside the text find the first of the positions at which the text that is searched for
stands. -/
theorem searchSlices?_eq {positions : List ℕ}
    (inside : ∀ i ∈ positions, i + needle.length ≤ s.length) :
    searchSlices? needle s positions = some (positions.find? fun i => OccursAt needle s i) := by
  induction positions with
  | nil => rfl
  | cons i positions ih =>
      rw [List.forall_mem_cons] at inside
      rcases slice?_eq_iff inside.1 with ⟨part, sliced, same⟩
      rw [searchSlices?, sliced, Option.bind_some, List.find?_cons]
      by_cases here : OccursAt needle s i
      · rw [if_pos (same.mpr here), decide_eq_true here]
      · rw [if_neg (mt same.mp here), decide_eq_false here]
        exact ih inside.2

/-! ## Searches over slices -/

/-- The positions from `start` on at which a text of some length still fits into another one. -/
def forwards (start size length : ℕ) : List ℕ :=
  List.range' start (length + 1 - size - start)

/-- The positions up to `limit` at which a text of some length still fits into another one, from the
last of them on. -/
def backwards (limit size length : ℕ) : List ℕ :=
  (List.range (min limit (length - size) + 1)).reverse

theorem mem_forwards {size length : ℕ} :
    i ∈ forwards start size length ↔ start ≤ i ∧ i + size ≤ length := by
  rw [forwards, List.mem_range'_1]
  omega

theorem mem_backwards {size length : ℕ} (fits : size ≤ length) :
    i ∈ backwards limit size length ↔ i ≤ limit ∧ i + size ≤ length := by
  rw [backwards, List.mem_reverse, List.mem_range]
  omega

/-- The first element of an ordered list that has a property. -/
theorem find?_eq_some_of_pairwise {r : ℕ → ℕ → Prop} {p : ℕ → Bool} {positions : List ℕ}
    (ordered : positions.Pairwise r) (mem : i ∈ positions) (holds : p i = true)
    (first : ∀ j ∈ positions, p j = true → ¬ r j i) : positions.find? p = some i := by
  induction positions with
  | nil => cases mem
  | cons j positions ih =>
      rw [List.pairwise_cons] at ordered
      rw [List.forall_mem_cons] at first
      rw [List.find?_cons]
      rcases List.mem_cons.mp mem with rfl | behind
      · rw [holds]
      · have refused : p j = false :=
          Bool.eq_false_iff.mpr fun also => first.1 also (ordered.1 i behind)
        rw [refused]
        exact ih ordered.2 behind first.2

/-- Slice by slice, the search forwards finds the same position. -/
theorem searchSlices?_forwards (inside : start ≤ s.length) :
    searchSlices? needle s (forwards start needle.length s.length) =
      some (findFrom needle s start) := by
  rw [searchSlices?_eq fun i mem => (mem_forwards.mp mem).2]
  congr 1
  cases found : findFrom needle s start with
  | none =>
      rw [List.find?_eq_none]
      intro i mem
      simpa using (findFrom_eq_none_iff inside).mp found i (mem_forwards.mp mem).1
  | some i =>
      rcases isLeast_of_findFrom inside found with ⟨⟨behind, occurs⟩, least⟩
      have mem : i ∈ forwards start needle.length s.length :=
        mem_forwards.mpr ⟨behind, occurs.add_length_le⟩
      refine find?_eq_some_of_pairwise List.pairwise_lt_range' mem (decide_eq_true occurs) ?_
      intro j among also
      exact (least ⟨(mem_forwards.mp among).1, of_decide_eq_true also⟩).not_gt

/-- Slice by slice, the search backwards finds the same position. -/
theorem searchSlices?_backwards (fits : needle.length ≤ s.length) :
    searchSlices? needle s (backwards limit needle.length s.length) =
      some (findLast needle limit s) := by
  rw [searchSlices?_eq fun i mem => ((mem_backwards fits).mp mem).2]
  congr 1
  cases found : findLast needle limit s with
  | none =>
      rw [List.find?_eq_none]
      intro i mem
      simpa using findLast_eq_none_iff.mp found i ((mem_backwards fits).mp mem).1
  | some i =>
      rcases isGreatest_of_findLast found with ⟨⟨bound, occurs⟩, greatest⟩
      have mem : i ∈ backwards limit needle.length s.length :=
        (mem_backwards fits).mpr ⟨bound, occurs.add_length_le⟩
      have ordered : (backwards limit needle.length s.length).Pairwise (· > ·) :=
        List.pairwise_reverse.mpr List.pairwise_lt_range
      refine find?_eq_some_of_pairwise ordered mem (decide_eq_true occurs) ?_
      intro j among also
      exact (greatest ⟨((mem_backwards fits).mp among).1, of_decide_eq_true also⟩).not_gt

/-! ## Splitting and replacing -/

variable {separator replacement t before after : List Char} {parts others : List (List Char)}

/-- The parts of a text between the occurrences of a separator that are found from the left and do
not overlap. -/
inductive Splits (separator : List Char) : List Char → List (List Char) → Prop where
  | last {s : List Char} :
      (∀ i, ¬ OccursAt separator s i) →
      Splits separator s [s]
  | cut {before after : List Char} {parts : List (List Char)} :
      IsLeast {i | OccursAt separator (before ++ (separator ++ after)) i} before.length →
      Splits separator after parts →
      Splits separator (before ++ (separator ++ after)) (before :: parts)

/-- A text and the same text with the first occurrence of a pattern replaced, if there is one. -/
inductive ReplacesFirst (pattern replacement : List Char) : List Char → List Char → Prop where
  | nowhere {s : List Char} :
      (∀ i, ¬ OccursAt pattern s i) →
      ReplacesFirst pattern replacement s s
  | first {before after : List Char} :
      IsLeast {i | OccursAt pattern (before ++ (pattern ++ after)) i} before.length →
      ReplacesFirst pattern replacement (before ++ (pattern ++ after))
        (before ++ (replacement ++ after))

/-! ## Cutting at the first occurrence -/

theorem not_occursAt_of_cut?_eq_none (uncut : cut? separator s = none) :
    ∀ i, ¬ OccursAt separator s i := by
  apply findFirst_eq_none_iff.mp
  rw [findFirst_eq_map_cut?, uncut]
  rfl

/-- A text is cut at the least position at which the separator stands. -/
theorem isLeast_of_cut? (cut : cut? separator s = some (before, after)) :
    s = before ++ (separator ++ after) ∧
      IsLeast {i | OccursAt separator (before ++ (separator ++ after)) i} before.length := by
  have split := eq_append_of_cut? cut
  rw [List.append_assoc] at split
  constructor
  · exact split
  · rw [← split]
    apply isLeast_of_findFirst
    rw [findFirst_eq_map_cut?, cut]
    rfl

/-- No separator ends in front of its first occurrence. -/
theorem not_infix_of_isLeast (nonempty : separator ≠ [])
    (least : IsLeast {i | OccursAt separator (before ++ t) i} before.length) :
    ¬ separator <:+: before := by
  rintro ⟨front, back, rfl⟩
  have bound := least.2 ⟨front, back ++ t, by simp, rfl⟩
  have positive := List.length_pos_iff.mpr nonempty
  simp only [List.length_append] at bound
  omega

theorem not_infix_of_forall_not_occursAt (nowhere : ∀ i, ¬ OccursAt separator s i) :
    ¬ separator <:+: s := by
  rintro ⟨front, back, rfl⟩
  exact nowhere front.length ⟨front, back, by simp, rfl⟩

theorem replacesFirst_replaceFirst (pattern replacement s : List Char) :
    ReplacesFirst pattern replacement s (replaceFirst pattern replacement s) := by
  rw [replaceFirst]
  split
  · rename_i uncut
    exact .nowhere (not_occursAt_of_cut?_eq_none uncut)
  · rename_i cut
    rcases isLeast_of_cut? cut with ⟨rfl, least⟩
    rw [List.append_assoc]
    exact .first least

/-! ## Finding all occurrences -/

/-- The characters of what was found are passed over. -/
theorem matchIndices_append (front s : List Char) (position : ℕ) :
    matchIndices needle position front.length (front ++ s) =
      matchIndices needle (position + front.length) 0 s := by
  induction front generalizing position with
  | nil => rfl
  | cons c front ih =>
      rw [List.length_cons, List.cons_append, matchIndices, ih, Nat.add_right_comm, Nat.add_assoc]

theorem matchIndices_of_nowhere (nowhere : ∀ i, ¬ OccursAt needle s i) (position : ℕ) :
    matchIndices needle position 0 s = [] := by
  induction s generalizing position with
  | nil => rfl
  | cons c rest ih =>
      rw [matchIndices, if_neg (mt occursAt_cons_zero.mpr (nowhere 0))]
      exact ih (fun i occurs => nowhere (i + 1) (occursAt_cons_succ.mpr occurs)) (position + 1)

/-- The scan finds the least position, and goes on behind what it has found there. -/
theorem matchIndices_of_isLeast (nonempty : needle ≠ [])
    (least : IsLeast {i | OccursAt needle (before ++ (needle ++ after)) i} before.length)
    (position : ℕ) :
    matchIndices needle position 0 (before ++ (needle ++ after)) =
      (position + before.length) ::
        matchIndices needle (position + before.length + needle.length) 0 after := by
  induction before generalizing position with
  | nil =>
      cases needle with
      | nil => exact absurd rfl nonempty
      | cons c rest =>
          have here : (c :: rest).isPrefixOf (c :: (rest ++ after)) = true :=
            List.isPrefixOf_iff_prefix.mpr (List.prefix_append (c :: rest) after)
          have passed : matchIndices (c :: rest) (position + 1) rest.length (rest ++ after) = _ :=
            matchIndices_append rest after (position + 1)
          change matchIndices (c :: rest) position 0 (c :: (rest ++ after)) = _
          rw [matchIndices, if_pos here, List.length_cons, Nat.add_sub_cancel, passed,
            Nat.add_right_comm]
          rfl
  | cons c before ih =>
      have notHere : ¬ needle.isPrefixOf (c :: (before ++ (needle ++ after))) = true := by
        intro here
        exact absurd (least.2 (occursAt_cons_zero.mpr here)) (Nat.not_succ_le_zero _)
      have leastBehind :
          IsLeast {i | OccursAt needle (before ++ (needle ++ after)) i} before.length := by
        refine ⟨occursAt_cons_succ.mp least.1, fun i occurs => ?_⟩
        exact Nat.le_of_succ_le_succ (least.2 (occursAt_cons_succ.mpr occurs))
      rw [List.cons_append, matchIndices, if_neg notHere, ih leastBehind, List.length_cons,
        Nat.add_assoc position 1, Nat.add_comm 1]

/-! ## The parts of a text -/

theorem splits_splitOn (nonempty : separator ≠ []) (s : List Char) :
    Splits separator s (splitOn separator s) := by
  induction s using splitOn.induct separator with
  | case1 _ empty => exact absurd empty nonempty
  | case2 s _ uncut =>
      rw [splitOn, dif_neg nonempty]
      split
      · exact .last (not_occursAt_of_cut?_eq_none uncut)
      · rename_i cut
        rw [uncut] at cut
        cases cut
  | case3 s _ before after cut ih =>
      rw [splitOn, dif_neg nonempty]
      split
      · rename_i uncut
        rw [cut] at uncut
        cases uncut
      · rename_i again
        rw [cut] at again
        cases again
        rcases isLeast_of_cut? cut with ⟨rfl, least⟩
        exact .cut least ih

namespace Splits

theorem ne_nil (splits : Splits separator s parts) : parts ≠ [] := by
  cases splits <;> simp

/-- The separator between the parts gives the text again. -/
theorem intercalate_eq (splits : Splits separator s parts) : separator.intercalate parts = s := by
  induction splits with
  | last _ => exact List.intercalate_singleton
  | cut _ further ih =>
      rw [List.intercalate_cons_of_ne_nil further.ne_nil, ih, List.append_assoc]

theorem not_infix_of_mem (nonempty : separator ≠ []) (splits : Splits separator s parts) :
    ∀ part ∈ parts, ¬ separator <:+: part := by
  induction splits with
  | last nowhere =>
      rw [List.forall_mem_singleton]
      exact not_infix_of_forall_not_occursAt nowhere
  | cut least _ ih =>
      rw [List.forall_mem_cons]
      exact ⟨not_infix_of_isLeast nonempty least, ih⟩

/-- A text has only one split: the least positions leave no choice. -/
theorem unique (first : Splits separator s parts) (second : Splits separator s others) :
    parts = others := by
  induction first generalizing others with
  | last nowhere =>
      cases second with
      | last _ => rfl
      | cut least _ => exact absurd least.1 (nowhere _)
  | @cut before after parts least further ih =>
      generalize split : before ++ (separator ++ after) = text at second least
      cases second with
      | last nowhere => exact absurd least.1 (nowhere _)
      | @cut otherBefore otherAfter others otherLeast otherFurther =>
          have same := List.append_inj split (least.unique otherLeast)
          rw [List.append_cancel_left_eq] at same
          rcases same with ⟨rfl, rfl⟩
          rw [ih otherFurther]

/-- Replacing at the positions at which the scan finds a separator puts the replacement between the
parts. -/
theorem replaceAt_matchIndices (nonempty : separator ≠ []) (splits : Splits separator s parts)
    (replacement : List Char) (position : ℕ) :
    replaceAt separator.length replacement position s (matchIndices separator position 0 s) =
      replacement.intercalate parts := by
  induction splits generalizing position with
  | last nowhere =>
      rw [matchIndices_of_nowhere nowhere, replaceAt, List.intercalate_singleton]
  | @cut before after parts least further ih =>
      have front : (before ++ (separator ++ after)).take before.length = before := List.take_left
      have behind : (before ++ (separator ++ after)).drop (before.length + separator.length) =
          after := by
        rw [← List.append_assoc, ← List.length_append, List.drop_left]
      rw [matchIndices_of_isLeast nonempty least, replaceAt, Nat.add_sub_cancel_left, front, behind,
        ih, List.intercalate_cons_of_ne_nil further.ne_nil]

/-- Another text between the parts replaces the separator wherever it was found. -/
theorem replaceAll_eq (nonempty : separator ≠ []) (splits : Splits separator s parts)
    (replacement : List Char) : replaceAll separator replacement s =
      replacement.intercalate parts := by
  rw [replaceAll, if_neg (by simpa using nonempty)]
  exact splits.replaceAt_matchIndices nonempty replacement 0

end Splits

theorem intercalate_singletons (s : List Char) : [].intercalate (s.map ([·])) = s := by
  induction s with
  | nil => rfl
  | cons c rest ih =>
      cases rest with
      | nil => rfl
      | cons d rest =>
          rw [List.map_cons] at ih
          rw [List.map_cons, List.map_cons, List.intercalate_cons_cons, ih]
          rfl

/-- Splitting is undone by joining, at the empty separator too. -/
theorem intercalate_splitOn (separator s : List Char) :
    separator.intercalate (splitOn separator s) = s := by
  by_cases empty : separator = []
  · rw [splitOn, dif_pos empty, empty]
    exact intercalate_singletons s
  · exact (splits_splitOn empty s).intercalate_eq

end Stencil.Text
