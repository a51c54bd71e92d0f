import Mathlib.Data.List.Nodup
import Stencil.Fields

/-!
# Ordered fields, key by key

Fields that are set one after the other answer with the last value of a key.  Lists that are built
by insertion never repeat a key.
-/

namespace Stencil.Fields

variable {α β : Type u}

/-! ## Look-up -/

theorem find?_cons (name key : String) (value : α) (fields : List (String × α)) :
    find? name ((key, value) :: fields) = if name = key then some value else find? name fields := by
  by_cases equal : name = key
  · simp [find?, equal]
  · rw [if_neg equal, find?, List.lookup_cons, beq_false_of_ne equal]
    rfl

/-- Fields made from names answer for exactly those names. -/
theorem find?_map_names (value : String → α) (name : String) (names : List String) :
    find? name (names.map fun other => (other, value other)) =
      if name ∈ names then some (value name) else none := by
  induction names with
  | nil => rfl
  | cons first rest ih =>
      rw [List.map_cons, find?_cons, ih]
      by_cases equal : name = first <;> simp [equal]

/-- Fields made from the names that have a value answer with that value. -/
theorem find?_filterMap_names (value? : String → Option α) (name : String) (names : List String) :
    find? name (names.filterMap fun other => (value? other).map fun v => (other, v)) =
      if name ∈ names then value? name else none := by
  induction names with
  | nil => rfl
  | cons first rest ih =>
      cases found : value? first with
      | none =>
          rw [List.filterMap_cons_none (by rw [found]; rfl), ih]
          by_cases equal : name = first <;> simp [equal, found]
      | some v =>
          rw [List.filterMap_cons_some (by rw [found]; rfl), find?_cons, ih]
          by_cases equal : name = first <;> simp [equal, found]

theorem find?_append (key : String) (first second : List (String × α)) :
    find? key (first ++ second) = (find? key first).or (find? key second) :=
  List.lookup_append

/-- Of several pairs of a key, the last one counts. -/
theorem find?_insertAll (key : String) (fields pairs : List (String × α)) :
    find? key (insertAll fields pairs) = (find? key pairs.reverse).or (find? key fields) := by
  induction pairs generalizing fields with
  | nil => simp [insertAll]
  | cons pair rest ih =>
      rcases pair with ⟨k, v⟩
      rw [insertAll, List.foldl_cons, ← insertAll, ih, List.reverse_cons, find?_append,
        find?_insert, find?_cons, Option.or_assoc]
      by_cases equal : key = k <;> simp [equal]

theorem find?_ofPairs (key : String) (pairs : List (String × α)) :
    find? key (ofPairs pairs) = find? key pairs.reverse := by
  rw [ofPairs, find?_insertAll, find?_nil, Option.or_none]

theorem find?_map_snd (convert : α → β) (key : String) (fields : List (String × α)) :
    find? key (fields.map fun field => (field.1, convert field.2)) =
      (find? key fields).map convert := by
  induction fields with
  | nil => rfl
  | cons field rest ih =>
      rcases field with ⟨k, v⟩
      rw [List.map_cons, find?_cons, find?_cons, ih]
      split <;> rfl

/-! ## Keys -/

/-- A new key is set at the end. -/
theorem insert_of_not_mem {key : String} {fields : List (String × α)} (absent : key ∉ keys fields)
    (value : α) : insert key value fields = fields ++ [(key, value)] := by
  induction fields with
  | nil => rfl
  | cons field rest ih =>
      rcases field with ⟨k, v⟩
      rcases not_or.mp (mt List.mem_cons.mpr absent) with ⟨other, absentRest⟩
      rw [insert, if_neg other, ih absentRest, List.cons_append]

theorem not_mem_keys_of_nodup {fields others : List (String × α)} {field : String × α}
    (distinct : (keys (fields ++ field :: others)).Nodup) : field.1 ∉ keys fields := by
  rw [keys, List.map_append, List.map_cons] at distinct
  intro mem
  exact List.disjoint_of_nodup_append distinct mem List.mem_cons_self

/-- Fields with new keys are set at the end, one after the other. -/
theorem insertAll_of_nodup {fields pairs : List (String × α)}
    (distinct : (keys (fields ++ pairs)).Nodup) : insertAll fields pairs = fields ++ pairs := by
  induction pairs generalizing fields with
  | nil => rw [List.append_nil]; rfl
  | cons pair rest ih =>
      rcases pair with ⟨key, value⟩
      have step : insertAll fields ((key, value) :: rest) =
          insertAll (insert key value fields) rest := rfl
      have absent : key ∉ keys fields := not_mem_keys_of_nodup distinct
      rw [step, insert_of_not_mem absent, ih (by simpa using distinct), List.append_assoc,
        List.singleton_append]

theorem ofPairs_of_nodup {pairs : List (String × α)} (distinct : (keys pairs).Nodup) :
    ofPairs pairs = pairs := by
  rw [ofPairs, insertAll_of_nodup (by rwa [List.nil_append]), List.nil_append]

/-- Leaving out fields keeps the order of the other keys. -/
theorem keys_filterMap_sublist (convert? : α → Option β) (fields : List (String × α)) :
    (keys (fields.filterMap fun field => (convert? field.2).map (field.1, ·))).Sublist
      (keys fields) := by
  induction fields with
  | nil => exact .slnil
  | cons field rest ih =>
      rw [List.filterMap_cons]
      cases convert? field.2 with
      | none => exact ih.cons field.1
      | some value => exact ih.cons_cons field.1

/-- A key answers with the value of one of its fields. -/
theorem mem_of_find? {key : String} {value : α} {fields : List (String × α)}
    (found : find? key fields = some value) : (key, value) ∈ fields := by
  rcases List.lookup_eq_some_iff.mp found with ⟨before, after, rfl, -⟩
  exact List.mem_append_right before List.mem_cons_self

theorem isSome_find?_iff {key : String} {fields : List (String × α)} :
    (find? key fields).isSome ↔ key ∈ keys fields := by
  constructor
  · intro found
    rcases Option.isSome_iff_exists.mp found with ⟨value, found⟩
    exact List.mem_map_of_mem (mem_of_find? found)
  · intro mem
    by_contra notFound
    rw [Option.not_isSome_iff_eq_none, find?, List.lookup_eq_none_iff] at notFound
    rcases List.mem_map.mp mem with ⟨field, fieldMem, rfl⟩
    exact absurd rfl (bne_iff_ne.mp (notFound field fieldMem))

/-- A key that is not among the keys has no value. -/
theorem find?_eq_none_of_not_mem {key : String} {fields : List (String × α)}
    (absent : key ∉ keys fields) : find? key fields = none :=
  Option.not_isSome_iff_eq_none.mp (mt isSome_find?_iff.mp absent)

/-- Where no key is repeated, every field answers for its key. -/
theorem find?_of_mem {fields : List (String × α)} (distinct : (keys fields).Nodup)
    {field : String × α} (mem : field ∈ fields) : find? field.1 fields = some field.2 := by
  induction fields with
  | nil => cases mem
  | cons other rest ih =>
      rcases List.nodup_cons.mp distinct with ⟨absent, distinctRest⟩
      rw [find?_cons]
      rcases List.mem_cons.mp mem with rfl | mem
      · rw [if_pos rfl]
      · rw [if_neg, ih distinctRest mem]
        intro equal
        exact absent (equal ▸ List.mem_map_of_mem mem)

/-- Where no key is repeated, the last field of a key is the first one. -/
theorem find?_reverse {fields : List (String × α)} (distinct : (keys fields).Nodup)
    (key : String) : find? key fields.reverse = find? key fields := by
  induction fields with
  | nil => rfl
  | cons field rest ih =>
      rcases field with ⟨k, v⟩
      rcases List.nodup_cons.mp distinct with ⟨absent, distinctRest⟩
      rw [List.reverse_cons, find?_append, ih distinctRest, find?_cons, find?_cons]
      by_cases equal : key = k
      · rw [if_pos equal, equal, find?_eq_none_of_not_mem absent, Option.none_or, if_pos rfl]
      · rw [if_neg equal, if_neg equal, find?_nil, Option.or_none]

end Stencil.Fields
