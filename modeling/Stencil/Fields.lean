/-!
# Ordered fields

A mapping with ordered keys is a list of pairs.  A key keeps the place of its first insertion and
takes the value of its last one.  Lists that are built by `insert` never repeat a key.
-/

namespace Stencil.Fields

variable {α : Type u}

/-- The value of a key. -/
def find? (key : String) (fields : List (String × α)) : Option α :=
  fields.lookup key

/-- Whether a key is present. -/
def contains (key : String) (fields : List (String × α)) : Bool :=
  (find? key fields).isSome

/-- The keys in order. -/
def keys (fields : List (String × α)) : List String :=
  fields.map Prod.fst

/-- The fields with a value set: in place if the key is present, at the end otherwise. -/
def insert (key : String) (value : α) : List (String × α) → List (String × α)
  | [] => [(key, value)]
  | (k, v) :: rest => if key = k then (k, value) :: rest else (k, v) :: insert key value rest

/-- The fields with the pairs of a list set one after the other. -/
def insertAll (fields pairs : List (String × α)) : List (String × α) :=
  pairs.foldl (fun acc (key, value) => insert key value acc) fields

/-- The fields of a list of pairs with possibly repeated keys. -/
def ofPairs (pairs : List (String × α)) : List (String × α) :=
  insertAll [] pairs

@[simp]
theorem find?_nil (key : String) : find? key ([] : List (String × α)) = none :=
  rfl

theorem find?_insert (key other : String) (value : α) (fields : List (String × α)) :
    find? other (insert key value fields) =
      if other = key then some value else find? other fields := by
  induction fields with
  | nil => by_cases asked : other = key <;> simp [find?, insert, asked]
  | cons field rest ih =>
      rcases field with ⟨k, v⟩
      simp only [find?] at ih ⊢
      by_cases here : key = k
      · by_cases asked : other = k <;>
          simp [insert, List.lookup_cons, here, asked, beq_false_of_ne]
      · by_cases asked : other = k
        · simp [insert, here, asked, Ne.symm here]
        · simp [insert, List.lookup_cons, here, asked, beq_false_of_ne, ih]

/-! ## Keys -/

theorem keys_insert (key : String) (value : α) (fields : List (String × α)) :
    keys (insert key value fields) =
      if key ∈ keys fields then keys fields else keys fields ++ [key] := by
  induction fields with
  | nil => rfl
  | cons field rest ih =>
      rcases field with ⟨k, v⟩
      by_cases equal : key = k
      · simp [insert, keys, equal]
      · have step : keys (insert key value ((k, v) :: rest)) =
            k :: keys (insert key value rest) := by
          rw [insert, if_neg equal]
          rfl
        have cons : keys ((k, v) :: rest) = k :: keys rest := rfl
        rw [step, ih, cons]
        by_cases mem : key ∈ keys rest <;> simp [mem, equal]

theorem nodup_keys_insert {fields : List (String × α)} (distinct : (keys fields).Nodup)
    (key : String) (value : α) : (keys (insert key value fields)).Nodup := by
  rw [keys_insert]
  split
  · exact distinct
  · rename_i absent
    have single : [key].Nodup := List.nodup_cons.mpr ⟨nofun, List.nodup_nil⟩
    refine List.nodup_append.mpr ⟨distinct, single, fun other mem added isAdded same => ?_⟩
    rw [List.mem_singleton.mp isAdded] at same
    exact absent (same ▸ mem)

theorem nodup_keys_insertAll {fields : List (String × α)} (distinct : (keys fields).Nodup)
    (pairs : List (String × α)) : (keys (insertAll fields pairs)).Nodup := by
  induction pairs generalizing fields with
  | nil => exact distinct
  | cons pair rest ih => exact ih (nodup_keys_insert distinct pair.1 pair.2)

theorem nodup_keys_ofPairs (pairs : List (String × α)) : (keys (ofPairs pairs)).Nodup :=
  nodup_keys_insertAll (show (keys ([] : List (String × α))).Nodup from List.nodup_nil) pairs

end Stencil.Fields
