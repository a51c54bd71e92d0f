import Stencil.Text.Search

/-!
# First occurrences

Cutting a text finds the leftmost occurrence of a mark.  What stands behind an occurrence never
matters for it, and a text in which no occurrence starts can be put in front.
-/

namespace Stencil.Text

variable {mark s t before after : List Char}

theorem cut?_cons_of_here {c : Char} {rest : List Char} (here : mark <+: c :: rest) :
    cut? mark (c :: rest) = some ([], (c :: rest).drop mark.length) := by
  rw [cut?, if_pos (List.isPrefixOf_iff_prefix.mpr here)]

theorem cut?_cons_of_not_here {c : Char} {rest : List Char} (notHere : ¬ mark <+: c :: rest) :
    cut? mark (c :: rest) =
      (cut? mark rest).map fun parts => (c :: parts.1, parts.2) := by
  rw [cut?, if_neg fun found => notHere (List.isPrefixOf_iff_prefix.mp found)]

theorem cut?_eq_none_iff : cut? mark s = none ↔ ¬ mark <:+: s := by
  induction s with
  | nil => cases mark <;> simp [cut?]
  | cons c rest ih =>
      rw [List.infix_cons_iff]
      by_cases here : mark <+: c :: rest
      · simp [cut?_cons_of_here here, here]
      · simp [cut?_cons_of_not_here here, here, ih]

/-- The mark stands where the text is cut, and nowhere further left. -/
theorem cut?_eq_some_iff :
    cut? mark s = some (before, after) ↔
      s = before ++ mark ++ after ∧ ∀ i < before.length, ¬ mark <+: s.drop i := by
  induction s generalizing before with
  | nil => cases mark <;> cases before <;> simp [cut?, eq_comm]
  | cons c rest ih =>
      by_cases here : mark <+: c :: rest
      · rw [cut?_cons_of_here here]
        constructor
        · intro found
          cases found
          exact ⟨(List.prefix_iff_eq_append.mp here).symm, by simp⟩
        · rintro ⟨split, leftmost⟩
          cases before with
          | nil => simp [split]
          | cons d before => exact absurd here (leftmost 0 (by simp))
      · rw [cut?_cons_of_not_here here]
        constructor
        · intro found
          rcases Option.map_eq_some_iff.mp found with ⟨⟨inner, _⟩, cut, same⟩
          cases same
          rcases ih.mp cut with ⟨rfl, leftmost⟩
          refine ⟨rfl, fun i bound => ?_⟩
          cases i with
          | zero => exact here
          | succ i => exact leftmost i (Nat.lt_of_succ_lt_succ bound)
        · rintro ⟨split, leftmost⟩
          cases before with
          | nil => exact absurd ⟨after, by simpa using split.symm⟩ here
          | cons d before =>
              rcases List.cons.inj split with ⟨rfl, rest_eq⟩
              have cut : cut? mark rest = some (before, after) :=
                ih.mpr ⟨rest_eq, fun i bound => leftmost (i + 1) (Nat.succ_lt_succ bound)⟩
              rw [cut]
              rfl

/-- The first occurrence is where the text is cut. -/
theorem findFirst_eq_map_cut? (mark s : List Char) :
    findFirst mark s = (cut? mark s).map fun parts => parts.1.length := by
  induction s with
  | nil =>
      simp only [findFirst, cut?]
      split <;> rfl
  | cons c rest ih =>
      simp only [findFirst, cut?, ih]
      split
      · rfl
      · simp only [Option.map_map]
        rfl

/-- The leftmost occurrence stays where it is when the text goes on. -/
theorem cut?_append_right (t : List Char) (cut : cut? mark s = some (before, after)) :
    cut? mark (s ++ t) = some (before, after ++ t) := by
  rcases cut?_eq_some_iff.mp cut with ⟨rfl, leftmost⟩
  refine cut?_eq_some_iff.mpr ⟨by simp, fun i bound found => leftmost i bound ?_⟩
  rw [List.drop_append_of_le_length (by simp; omega)] at found
  refine List.prefix_of_prefix_length_le found (List.prefix_append _ t) ?_
  simp
  omega

/-- An occurrence that ends inside the front of a text is an occurrence in that front. -/
theorem exists_cut?_of_append (cut : cut? mark (s ++ t) = some (before, after))
    (inside : before.length + mark.length ≤ s.length) :
    ∃ rest, after = rest ++ t ∧ cut? mark s = some (before, rest) := by
  rcases cut?_eq_some_iff.mp cut with ⟨split, leftmost⟩
  have front : before ++ mark <+: s :=
    List.prefix_of_prefix_length_le ⟨after, split.symm⟩ (List.prefix_append s t) (by simpa)
  rcases front with ⟨rest, rfl⟩
  refine ⟨rest, ?_, cut?_eq_some_iff.mpr ⟨rfl, fun i bound found => leftmost i bound ?_⟩⟩
  · simpa using split.symm
  · rw [List.drop_append_of_le_length (by simp; omega)]
    exact found.trans (List.prefix_append _ t)

/-- A text in which no occurrence starts can be put in front. -/
theorem cut?_append_left (clear : ∀ i < s.length, ¬ mark <+: (s ++ t).drop i) :
    cut? mark (s ++ t) = (cut? mark t).map fun parts => (s ++ parts.1, parts.2) := by
  induction s with
  | nil => simp
  | cons c rest ih =>
      have notHere : ¬ mark <+: c :: (rest ++ t) := clear 0 (by simp)
      have further : ∀ i < rest.length, ¬ mark <+: (rest ++ t).drop i := fun i bound =>
        clear (i + 1) (Nat.succ_lt_succ bound)
      rw [List.cons_append, cut?_cons_of_not_here notHere, ih further, Option.map_map]
      rfl

/-- Nothing that starts with a character starts in a text without that character. -/
theorem not_cons_prefix_drop {c : Char} (absent : c ∉ s) :
    ∀ i < s.length, ¬ c :: mark <+: (s ++ t).drop i := by
  intro i bound found
  rw [List.drop_append_of_le_length (Nat.le_of_lt bound), List.drop_eq_getElem_cons bound,
    List.cons_append, List.cons_prefix_cons] at found
  exact absent (found.1 ▸ List.getElem_mem bound)

/-- What starts with the mark at the end of a text starts behind a front in which no occurrence
starts. -/
theorem suffix_of_clear {found : List Char} (clear : ∀ i < s.length, ¬ mark <+: (s ++ t).drop i)
    (starts : mark <+: found) (ending : found <:+ s ++ t) : found <:+ t := by
  apply List.suffix_of_suffix_length_le ending (List.suffix_append s t)
  apply Nat.le_of_not_lt
  intro longer
  have ending_le := ending.length_le
  apply clear ((s ++ t).length - found.length)
  · simp only [List.length_append] at ending_le ⊢
    omega
  · rw [← List.suffix_iff_eq_drop.mp ending]
    exact starts

/-- A mark does not reach over a character that it does not contain. -/
theorem prefix_of_append_eq {c : Char} {x rest : List Char} (absent : c ∉ mark)
    (same : mark ++ x = s ++ c :: rest) : mark <+: s := by
  rcases List.append_eq_append_iff.mp same with ⟨more, s_eq, _⟩ | ⟨excess, mark_eq, excess_eq⟩
  · exact ⟨more, s_eq.symm⟩
  · cases excess with
    | nil => exact ⟨[], by rw [mark_eq]; simp⟩
    | cons d excess =>
        rcases List.cons.inj excess_eq with ⟨rfl, _⟩
        exact absurd (mark_eq ▸ List.mem_append_right s List.mem_cons_self) absent

end Stencil.Text
