import Stencil.Expr.Evaluation
import Stencil.Proofs.Environment.Lookup
import Stencil.Proofs.Fields
import Stencil.Proofs.Number.Numeral
import Stencil.Proofs.Sequence
import Stencil.Template.Rendering

/-!
# Order of enumeration

Objects are enumerated with the keys that are indices first, in the order of their numbers, and then
all others in insertion order.  Everything that goes through the entries of a value goes through
them in this one order.
-/

namespace Stencil.Value

open Number (numeral)
open Text (ofDigits)

variable {α : Type u} {fields others : List (String × α)} {field : String × α} {key : String}
  {i : ℕ}

/-! ## Keys that are indices -/

/-- The key of an index of an array: `0`, or digits that do not begin with it, of a number below the
largest 32-bit word. -/
structure IsIndexKey (key : String) (i : ℕ) : Prop where
  digits : Number.AllDigits key.toList
  leading : key = "0" ∨ ∃ first rest, key.toList = first :: rest ∧ first ≠ '0'
  value : ofDigits 10 key.toList = i
  small : i ≤ 2 ^ 32 - 2

/-- The test for a key that is an index, in parts. -/
theorem isDigits_iff (key : String) :
    ¬ (key.toList.isEmpty || (1 < key.toList.length && key.toList.head? = some '0') ||
        !key.toList.all Text.isDigit) = true ↔
      (key = "0" ∨ ∃ first rest, key.toList = first :: rest ∧ first ≠ '0') ∧
        Number.AllDigits key.toList := by
  have zero : key = "0" ↔ key.toList = ['0'] := String.toList_inj.symm
  rw [zero]
  cases key.toList with
  | nil => simp
  | cons first rest =>
    cases rest <;> by_cases isZero : first = '0' <;> simp [isZero, Number.AllDigits]

theorem arrayIndex?_eq_some_iff : arrayIndex? key = some i ↔ IsIndexKey key i := by
  have parts := isDigits_iff key
  unfold arrayIndex?
  dsimp only
  split
  · rename_i refused
    refine ⟨nofun, fun isIndex => ?_⟩
    exact absurd refused (parts.mpr ⟨isIndex.leading, isIndex.digits⟩)
  · rename_i accepted
    rcases parts.mp accepted with ⟨leading, digits⟩
    rw [Option.filter_eq_some_iff, Option.some_inj, decide_eq_true_iff]
    constructor
    · rintro ⟨value, small⟩
      exact ⟨digits, leading, value, by omega⟩
    · intro isIndex
      have small := isIndex.small
      exact ⟨isIndex.value, by omega⟩

theorem IsIndexKey.key_eq (isIndex : IsIndexKey key i) : key = numeral i := by
  refine String.toList_inj.mp ?_
  rw [Number.toList_numeral, ← isIndex.value]
  rcases isIndex.leading with rfl | leading
  · exact Number.natText_zero.symm
  · exact (Number.natText_ofDigits isIndex.digits leading).symm

/-! ## Sorting -/

theorem insertIndexed_perm (i : ℕ) (field : String × α) (sorted : List (ℕ × String × α)) :
    (insertIndexed i field sorted).Perm ((i, field) :: sorted) := by
  induction sorted with
  | nil => exact .refl _
  | cons first rest ih =>
      rw [insertIndexed]
      split
      · exact .refl _
      · exact (ih.cons first).trans (.swap (i, field) first rest)

theorem insertIndexed_sorted (i : ℕ) (field : String × α) {sorted : List (ℕ × String × α)}
    (ordered : sorted.Pairwise (·.1 ≤ ·.1)) :
    (insertIndexed i field sorted).Pairwise (·.1 ≤ ·.1) := by
  induction sorted with
  | nil => exact List.pairwise_singleton _ _
  | cons first rest ih =>
      rcases List.pairwise_cons.mp ordered with ⟨least, orderedRest⟩
      rw [insertIndexed]
      split
      · rename_i below
        refine List.pairwise_cons.mpr ⟨?_, ordered⟩
        intro other mem
        rcases List.mem_cons.mp mem with rfl | mem
        · exact below.le
        · exact below.le.trans (least other mem)
      · rename_i notBelow
        refine List.pairwise_cons.mpr ⟨?_, ih orderedRest⟩
        intro other mem
        rcases List.mem_cons.mp ((insertIndexed_perm i field rest).mem_iff.mp mem) with rfl | mem
        · exact Nat.le_of_not_lt notBelow
        · exact least other mem

/-- The index of a key with the field, if the key is one. -/
def indexed? (field : String × α) : Option (ℕ × String × α) :=
  (arrayIndex? field.1).map (·, field)

theorem indexedFields_perm (fields : List (String × α)) :
    (indexedFields fields).Perm (fields.filterMap indexed?) := by
  induction fields with
  | nil => exact .refl _
  | cons field rest ih =>
      rcases field with ⟨key, value⟩
      rw [indexedFields, List.filterMap_cons, indexed?]
      cases arrayIndex? key with
      | none => exact ih
      | some i => exact (insertIndexed_perm i (key, value) _).trans (ih.cons _)

theorem indexedFields_sorted (fields : List (String × α)) :
    (indexedFields fields).Pairwise (·.1 ≤ ·.1) := by
  induction fields with
  | nil => exact .nil
  | cons field rest ih =>
      rcases field with ⟨key, value⟩
      rw [indexedFields]
      cases arrayIndex? key with
      | none => exact ih
      | some i => exact insertIndexed_sorted i (key, value) ih

/-- Where no key is repeated, no index is. -/
theorem indexedFields_increasing (distinct : (Fields.keys fields).Nodup) :
    (indexedFields fields).Pairwise (·.1 < ·.1) := by
  -- An index is the key of one numeral only, so that other keys have other indices.
  have apart : (fields.filterMap indexed?).Pairwise (·.1 ≠ ·.1) := by
    rw [Fields.keys, List.Nodup, List.pairwise_map] at distinct
    refine distinct.filterMap _ ?_
    rintro first second different _ isFirst _ isSecond same
    rcases Option.map_eq_some_iff.mp isFirst with ⟨i, first_index, rfl⟩
    rcases Option.map_eq_some_iff.mp isSecond with ⟨j, second_index, rfl⟩
    rw [arrayIndex?_eq_some_iff] at first_index second_index
    rw [first_index.key_eq, second_index.key_eq] at different
    exact different (congrArg numeral same)
  have apart := ((indexedFields_perm fields).pairwise_iff fun different => different.symm).mpr apart
  exact (indexedFields_sorted fields).imp₂ (fun _ _ => lt_of_le_of_ne) apart

/-- Fields in another order have the same indices in order. -/
theorem indexedFields_congr (distinct : (Fields.keys fields).Nodup)
    (reordered : fields.Perm others) :
    indexedFields fields = indexedFields others := by
  have distinctOthers : (Fields.keys others).Nodup :=
    (reordered.map Prod.fst).nodup_iff.mp distinct
  have perm : (indexedFields fields).Perm (indexedFields others) :=
    (indexedFields_perm fields).trans
      ((reordered.filterMap indexed?).trans (indexedFields_perm others).symm)
  exact perm.eq_of_pairwise (fun _ _ _ _ below above => absurd below above.not_gt)
    (indexedFields_increasing distinct) (indexedFields_increasing distinctOthers)

/-! ## Enumeration of fields -/

theorem isIndexKey_of_mem_indexedFields {entry : ℕ × String × α}
    (mem : entry ∈ indexedFields fields) : IsIndexKey entry.2.1 entry.1 := by
  rcases List.mem_filterMap.mp ((indexedFields_perm fields).mem_iff.mp mem) with ⟨field, -, found⟩
  rcases Option.map_eq_some_iff.mp found with ⟨i, index, rfl⟩
  exact arrayIndex?_eq_some_iff.mp index

theorem map_indexedFields_perm (fields : List (String × α)) :
    ((indexedFields fields).map Prod.snd).Perm
      (fields.filter fun field => (arrayIndex? field.1).isSome) := by
  refine ((indexedFields_perm fields).map Prod.snd).trans (.of_eq ?_)
  induction fields with
  | nil => rfl
  | cons field rest ih =>
      rw [List.filterMap_cons, List.filter_cons, indexed?]
      cases arrayIndex? field.1 with
      | none => exact ih
      | some i => exact congrArg (List.cons field) ih

/-- Enumeration loses no field and repeats none. -/
theorem enumerated_perm (fields : List (String × α)) : (enumerated fields).Perm fields := by
  have parts := List.filter_append_perm (fun field => (arrayIndex? field.1).isSome) fields
  simp only [Option.not_isSome] at parts
  exact ((map_indexedFields_perm fields).append_right _).trans parts

theorem nodup_keys_enumerated (distinct : (Fields.keys fields).Nodup) :
    (Fields.keys (enumerated fields)).Nodup :=
  ((enumerated_perm fields).map Prod.fst).nodup_iff.mpr distinct

/-- Enumerated fields are enumerated in the order that they have. -/
theorem enumerated_enumerated (distinct : (Fields.keys fields).Nodup) :
    enumerated (enumerated fields) = enumerated fields := by
  have noIndex : (enumerated fields).filter (fun field => (arrayIndex? field.1).isNone) =
      fields.filter fun field => (arrayIndex? field.1).isNone := by
    rw [enumerated, List.filter_append, List.filter_filter]
    simp only [Bool.and_self]
    refine List.append_left_eq_self.mpr (List.filter_eq_nil_iff.mpr fun field mem => ?_)
    rcases List.mem_map.mp mem with ⟨entry, entryMem, rfl⟩
    rw [arrayIndex?_eq_some_iff.mpr (isIndexKey_of_mem_indexedFields entryMem)]
    exact Bool.false_ne_true
  rw [enumerated.eq_def (enumerated fields), noIndex,
    indexedFields_congr (nodup_keys_enumerated distinct) (enumerated_perm fields)]
  rfl

theorem positioned_eq_map_zipIdx (start : ℕ) (items : List Value) :
    positioned start items = (items.zipIdx start).map fun entry => (nat entry.2, entry.1) := by
  induction items generalizing start with
  | nil => rfl
  | cons item rest ih => rw [positioned, ih, List.zipIdx_cons, List.map_cons]

/-! ## Going through entries -/

/-- The environment in the turn of a loop for an entry. -/
def turn (env : Environment) (loopVar : String) (entry : Value × Value) : Environment :=
  env.push ⟨loopVar, entry.2, entry.1⟩

/-- What goes through the entries of a value, in their order: the members of `Object`, and loops,
which show the index of a turn by its output form, escaped like all output. -/
structure Enumerates (v : Value) (entries : List (Value × Value)) : Prop where
  keys (now : Calendar.Instant) (args : Arguments) :
    Builtin.callMember now (v :: args) .object "keys" =
      .ok (array (entries.map fun entry => string entry.1.text))
  values (now : Calendar.Instant) (args : Arguments) :
    Builtin.callMember now (v :: args) .object "values" =
      .ok (array (entries.map fun entry => entry.2))
  pairs (now : Calendar.Instant) (args : Arguments) :
    Builtin.callMember now (v :: args) .object "entries" =
      .ok (array (entries.map fun entry => array [string entry.1.text, entry.2]))
  turns (env : Environment) (loopVar : String) (collection : Source) (body : List Node) :
    collection.expr.eval env = .ok v →
      Template.renderNode env (.each loopVar collection body) =
        (entries.mapM fun entry => Template.renderNodes (turn env loopVar entry) body).map
          String.join
  loopVariable (env : Environment) (loopVar : String) (entry : Value × Value) :
    (turn env loopVar entry).lookup loopVar = entry.2
  loopIndex (env : Environment) (loopVar : String) (entry : Value × Value) :
    (turn env loopVar entry).loopIndex = entry.1
  printedIndex (env : Environment) (loopVar : String) (entry : Value × Value) :
    Template.renderNode (turn env loopVar entry) .index = .ok (Text.escapeHtml entry.1.text)

theorem objectEntries_of_entries? {v : Value} {entries : List (Value × Value)}
    (listed : v.entries? = some entries) (args : Arguments) :
    objectEntries (v :: args) = .ok entries := by
  have target : Arguments.value (v :: args) 0 = v := rfl
  have present : v.isNullish = false := by
    cases v <;> first | rfl | cases listed
  rw [objectEntries, target]
  simp only [present, listed, Bool.false_eq_true, if_false, Option.getD_some]

theorem enumerates_of_entries? {v : Value} {entries : List (Value × Value)}
    (listed : v.entries? = some entries) : Enumerates v entries where
  keys now args := by
    simp only [Builtin.callMember, Builtin.memberCall?, objectEntries_of_entries? listed]
    rfl
  values now args := by
    simp only [Builtin.callMember, Builtin.memberCall?, objectEntries_of_entries? listed]
    rfl
  pairs now args := by
    simp only [Builtin.callMember, Builtin.memberCall?, objectEntries_of_entries? listed]
    rfl
  turns env loopVar collection body evaluated := by
    rw [Template.renderNode, evaluated]
    simp only [ok_bind, listed, Option.getD_some]
    change ((entries.mapM fun entry => Template.renderNodes (turn env loopVar entry) body) >>=
      fun outputs => .ok (String.join outputs)) = _
    cases entries.mapM fun entry => Template.renderNodes (turn env loopVar entry) body <;> rfl
  loopVariable env loopVar entry := env.lookup_push_self loopVar entry.2 entry.1
  loopIndex _ _ _ := rfl
  printedIndex env loopVar entry := by
    rw [Template.renderNode]
    rfl

/-- The order of enumeration.

- Every field of an object is listed once: first those whose keys are indices, in the order of their
  numbers, then all others in insertion order.
- A fresh object in which the fields are set in this order is enumerated in the same order.
- The entries of arrays and strings are their elements and characters with their positions.
- The members of `Object` and loops go through the entries of a value in their order. -/
theorem enumeration_order {fields : List (String × Value)}
    (distinct : (Fields.keys fields).Nodup) :
    (∃ (indexed others : List (String × Value)) (indices : List ℕ),
      (object fields).entries? =
        some ((indexed ++ others).map fun field => (string field.1, field.2)) ∧
      (indexed ++ others).Perm fields ∧
      List.Forall₂ (fun field i => IsIndexKey field.1 i) indexed indices ∧
      indices.Pairwise (· < ·) ∧
      others.Sublist fields ∧
      (∀ field ∈ others, ∀ i, ¬ IsIndexKey field.1 i) ∧
      (object (Fields.ofPairs (indexed ++ others))).entries? = (object fields).entries?) ∧
    (∀ items, (array items).entries? =
      some (items.zipIdx.map fun entry => (nat entry.2, entry.1))) ∧
    (∀ s, (string s).entries? =
      some ((s.toList.map char).zipIdx.map fun entry => (nat entry.2, entry.1))) ∧
    (∀ v entries, v.entries? = some entries → Enumerates v entries) := by
  refine ⟨⟨(indexedFields fields).map Prod.snd, fields.filter fun f => (arrayIndex? f.1).isNone,
    (indexedFields fields).map Prod.fst, rfl, enumerated_perm fields, ?_, ?_,
    List.filter_sublist, ?_, ?_⟩, ?_, ?_, fun v entries => enumerates_of_entries?⟩
  · rw [List.forall₂_map_left_iff, List.forall₂_map_right_iff, List.forall₂_same]
    exact fun entry mem => isIndexKey_of_mem_indexedFields mem
  · exact List.pairwise_map.mpr (indexedFields_increasing distinct)
  · intro field mem i isIndex
    have none := (List.mem_filter.mp mem).2
    rw [arrayIndex?_eq_some_iff.mpr isIndex] at none
    cases none
  · have fresh := Fields.ofPairs_of_nodup (nodup_keys_enumerated distinct)
    have again := enumerated_enumerated distinct
    rw [entries?, entries?, ← enumerated, fresh, again]
  · intro items
    rw [entries?, positioned_eq_map_zipIdx]
  · intro s
    rw [entries?, positioned_eq_map_zipIdx]

/-- Near misses of indices keep their places behind the indices. -/
theorem enumeration_order_near_misses : ∃ fields entries,
    fields = [("b", nat 1), ("10", nat 2), ("01", nat 3), ("9", nat 4), ("4294967295", nat 5)] ∧
      entries = [(string "9", nat 4), (string "10", nat 2), (string "b", nat 1),
        (string "01", nat 3), (string "4294967295", nat 5)] ∧
      (Fields.keys fields).Nodup ∧
      (object fields).entries? = some entries ∧
      (∃ indexed others, (indexed ++ others).Perm fields ∧
        (object (Fields.ofPairs (indexed ++ others))).entries? = some entries) ∧
      Enumerates (object fields) entries := by
  have distinct : (Fields.keys [("b", nat 1), ("10", nat 2), ("01", nat 3), ("9", nat 4),
      ("4294967295", nat 5)]).Nodup := by
    decide
  have listed : (object [("b", nat 1), ("10", nat 2), ("01", nat 3), ("9", nat 4),
      ("4294967295", nat 5)]).entries? = some [(string "9", nat 4), (string "10", nat 2),
        (string "b", nat 1), (string "01", nat 3), (string "4294967295", nat 5)] :=
    rfl
  rcases enumeration_order distinct with
    ⟨⟨indexed, others, -, -, perm, -, -, -, -, again⟩, -, -, enumerates⟩
  exact ⟨_, _, rfl, rfl, distinct, listed, ⟨indexed, others, perm, again.trans listed⟩,
    enumerates _ _ listed⟩

end Stencil.Value
