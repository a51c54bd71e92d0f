import Mathlib.Data.List.Nodup
import Mathlib.Data.List.ReduceOption
import Mathlib.Data.Prod.Lex

/-!
# Names in the order of their first places

The names that occur at some places are listed by leaving out repetitions of the names at one place
after the other.  A place is a position in a list, some of whose entries are names, or a position in
one of several such lists, where the lists come one after the other.
-/

namespace Stencil

/-- Leaving values out and leaving repetitions out can be done in either order. -/
theorem eraseDups_filter (keep : String → Bool) (names : List String) :
    (names.filter keep).eraseDups = names.eraseDups.filter keep := by
  induction length : names.length using Nat.strongRecOn generalizing names with
  | _ n ih =>
      cases names with
      | nil => rfl
      | cons name rest =>
          have shorter : (rest.filter fun other => !other == name).length < n := by
            rw [← length]
            exact Nat.lt_succ_of_le (List.length_filter_le _ rest)
          have rest_eq := ih _ shorter _ rfl
          rw [List.filter_filter] at rest_eq
          cases kept : keep name with
          | true =>
              rw [List.filter_cons_of_pos kept, List.eraseDups_cons, List.eraseDups_cons,
                List.filter_cons_of_pos kept, ← rest_eq, List.filter_filter]
              simp only [Bool.and_comm]
          | false =>
              have same : (rest.filter fun other => keep other && !other == name) =
                  rest.filter keep := by
                apply List.filter_congr
                intro other _
                by_cases equal : other = name
                · simp [equal, kept]
                · simp [equal]
              rw [List.filter_cons_of_neg (by simp [kept]), List.eraseDups_cons,
                List.filter_cons_of_neg (by simp [kept]), ← rest_eq, same]

/-- The names that occur at some place, each of them once, in the order of their first places. -/
structure ListsOnce {κ : Type} [LT κ] (Occurs : κ → String → Prop) (names : List String) :
    Prop where
  mem_iff : ∀ name, name ∈ names ↔ ∃ place, Occurs place name
  nodup : names.Nodup
  ordered : names.Pairwise fun name other =>
    ∃ place, Occurs place name ∧ ∀ later, Occurs later other → place < later

section

variable {κ : Type} {Occurs : κ → String → Prop} {names : List String}
  {occurrences : List (κ × String)}

/-- Of names at increasing places, the first one that is left occurs in front of all places of the
other ones. -/
theorem pairwise_eraseDups [LT κ]
    (increasing : occurrences.Pairwise fun first second => first.1 < second.1) :
    (occurrences.map Prod.snd).eraseDups.Pairwise fun name other =>
      ∃ place, (place, name) ∈ occurrences ∧
        ∀ later, (later, other) ∈ occurrences → place < later := by
  induction occurrences with
  | nil => exact List.Pairwise.nil
  | cons occurrence rest ih =>
      rcases occurrence with ⟨start, first⟩
      rcases List.pairwise_cons.mp increasing with ⟨behind, restIncreasing⟩
      have inRest : ∀ other, other ≠ first → ∀ later,
          (later, other) ∈ (start, first) :: rest → (later, other) ∈ rest := by
        intro other distinct later mem
        rcases List.mem_cons.mp mem with same | mem
        · exact absurd (congrArg Prod.snd same) distinct
        · exact mem
      rw [List.map_cons, List.eraseDups_cons, eraseDups_filter, List.pairwise_cons,
        List.pairwise_filter]
      constructor
      · intro other mem
        have distinct : other ≠ first := by simpa using (List.mem_filter.mp mem).2
        refine ⟨start, List.mem_cons_self, fun later laterMem => ?_⟩
        exact behind _ (inRest other distinct later laterMem)
      · apply (ih restIncreasing).imp
        rintro name other ⟨place, mem, before⟩ _ isOther
        have distinct : other ≠ first := by simpa using isOther
        refine ⟨place, List.mem_cons_of_mem _ mem, fun later laterMem => ?_⟩
        exact before later (inRest other distinct later laterMem)

/-- Names at increasing places, without repetitions. -/
theorem listsOnce_eraseDups [Preorder κ]
    (increasing : occurrences.Pairwise fun first second => first.1 < second.1)
    (occurs_iff : ∀ place name, (place, name) ∈ occurrences ↔ Occurs place name) :
    ListsOnce Occurs (occurrences.map Prod.snd).eraseDups := by
  have ordered := pairwise_eraseDups increasing
  simp only [occurs_iff] at ordered
  constructor
  · intro name
    simp [List.mem_eraseDups, occurs_iff]
  · apply ordered.imp
    rintro name other ⟨place, occurs, before⟩ rfl
    exact lt_irrefl place (before place occurs)
  · exact ordered

/-- Leaving names out of a list leaves out their places. -/
theorem ListsOnce.filter [LT κ] (lists : ListsOnce Occurs names) (keep : String → Bool) :
    ListsOnce (fun place name => Occurs place name ∧ keep name = true) (names.filter keep) where
  mem_iff name := by simp [lists.mem_iff]
  nodup := lists.nodup.filter keep
  ordered := by
    rw [List.pairwise_filter]
    apply lists.ordered.imp
    rintro name other ⟨place, occurs, before⟩ kept _
    exact ⟨place, ⟨occurs, kept⟩, fun later laterOccurs => before later laterOccurs.1⟩

end

/-! ## Names in lists -/

/-- The names in a list with their positions. -/
def placed (slots : List (Option String)) : List (Nat × String) :=
  slots.zipIdx.filterMap fun (slot, place) => slot.map fun name => (place, name)

theorem mem_placed_iff {slots : List (Option String)} {place : Nat} {name : String} :
    (place, name) ∈ placed slots ↔ slots[place]? = some (some name) := by
  simp [placed, List.mem_filterMap, List.mk_mem_zipIdx_iff_getElem?]

theorem map_snd_placed (slots : List (Option String)) :
    (placed slots).map Prod.snd = slots.reduceOption := by
  have names_eq : (placed slots).map Prod.snd = slots.zipIdx.filterMap Prod.fst := by
    simp [placed, List.map_filterMap, Function.comp_def]
  have slots_eq : slots.zipIdx.map Prod.fst = slots := List.zipIdx_map_fst 0 slots
  rw [names_eq, List.reduceOption]
  nth_rewrite 2 [← slots_eq]
  rw [List.filterMap_map]
  rfl

theorem pairwise_zipIdx {α : Type} (items : List α) :
    items.zipIdx.Pairwise fun first second => first.2 < second.2 := by
  apply List.pairwise_map.mp
  rw [List.zipIdx_map_snd]
  exact List.pairwise_lt_range' 1

theorem placed_increasing (slots : List (Option String)) :
    (placed slots).Pairwise fun first second => first.1 < second.1 := by
  rw [placed, List.pairwise_filterMap]
  apply (pairwise_zipIdx slots).imp
  rintro ⟨slot, place⟩ ⟨other, later⟩ before _ isFound _ isAlsoFound
  rcases Option.map_eq_some_iff.mp isFound with ⟨_, _, rfl⟩
  rcases Option.map_eq_some_iff.mp isAlsoFound with ⟨_, _, rfl⟩
  exact before

/-- The names in a list, without repetitions. -/
theorem listsOnce_reduceOption (slots : List (Option String)) :
    ListsOnce (fun (place : Nat) name => slots[place]? = some (some name))
      slots.reduceOption.eraseDups := by
  rw [← map_snd_placed]
  exact listsOnce_eraseDups (placed_increasing slots) fun _ _ => mem_placed_iff

/-- The names in lists that come one after the other, with the number of the list and the position
in it. -/
def placedInRows (rows : List (List (Option String))) : List ((Nat ×ₗ Nat) × String) :=
  rows.zipIdx.flatMap fun (row, index) =>
    (placed row).map fun (place, name) => (toLex (index, place), name)

theorem mem_placedInRows_iff {rows : List (List (Option String))} {place : Nat ×ₗ Nat}
    {name : String} :
    (place, name) ∈ placedInRows rows ↔
      ∃ row, rows[(ofLex place).1]? = some row ∧ row[(ofLex place).2]? = some (some name) := by
  simp only [placedInRows, List.mem_flatMap, List.mem_map, Prod.exists, Prod.mk.injEq,
    List.mk_mem_zipIdx_iff_getElem?, mem_placed_iff]
  constructor
  · rintro ⟨row, _, rowAt, _, _, nameAt, rfl, rfl⟩
    exact ⟨row, rowAt, nameAt⟩
  · rintro ⟨row, rowAt, nameAt⟩
    exact ⟨row, _, rowAt, _, name, nameAt, rfl, rfl⟩

theorem map_snd_placedInRows (rows : List (List (Option String))) :
    (placedInRows rows).map Prod.snd = rows.flatMap List.reduceOption := by
  have rows_eq : rows.zipIdx.map Prod.fst = rows := List.zipIdx_map_fst 0 rows
  nth_rewrite 2 [← rows_eq]
  rw [placedInRows, List.map_flatMap, List.flatMap_map]
  congr 1
  funext ⟨row, index⟩
  rw [List.map_map, ← map_snd_placed]
  rfl

theorem placedInRows_increasing (rows : List (List (Option String))) :
    (placedInRows rows).Pairwise fun first second => first.1 < second.1 := by
  rw [placedInRows, List.pairwise_flatMap]
  constructor
  · rintro ⟨row, index⟩ _
    apply List.pairwise_map.mpr
    apply (placed_increasing row).imp
    intro first second before
    exact Prod.Lex.toLex_lt_toLex.mpr (.inr ⟨rfl, before⟩)
  · apply (pairwise_zipIdx rows).imp
    rintro ⟨row, index⟩ ⟨other, later⟩ before first firstMem second secondMem
    rcases List.mem_map.mp firstMem with ⟨_, _, rfl⟩
    rcases List.mem_map.mp secondMem with ⟨_, _, rfl⟩
    exact Prod.Lex.toLex_lt_toLex.mpr (.inl before)

/-- The names in lists that come one after the other, without repetitions. -/
theorem listsOnce_flatMap_reduceOption (rows : List (List (Option String))) :
    ListsOnce (fun (place : Nat ×ₗ Nat) name =>
        ∃ row, rows[(ofLex place).1]? = some row ∧ row[(ofLex place).2]? = some (some name))
      (rows.flatMap List.reduceOption).eraseDups := by
  rw [← map_snd_placedInRows]
  exact listsOnce_eraseDups (placedInRows_increasing rows) fun _ _ => mem_placedInRows_iff

end Stencil
