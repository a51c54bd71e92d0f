import Stencil.Proofs.Number.Rounding
import Stencil.Value.Equality
import Stencil.Value.Json

/-!
# Values and their parts

Values are made of others in arrays and objects.  What is said of all values is said of scalars and
carried on from the parts of a value to the value.
-/

namespace Stencil

/-! ## Numbers -/

namespace Binary64

/-- The number without the sign of a zero. -/
def dropZeroSign (n : Binary64) : Binary64 :=
  if n.isZero then zero else n

theorem isFinite_dropZeroSign {n : Binary64} (finite : n.isFinite) : n.dropZeroSign.isFinite := by
  rw [dropZeroSign]
  split
  · rfl
  · exact finite

theorem dropZeroSign_dropZeroSign (n : Binary64) :
    n.dropZeroSign.dropZeroSign = n.dropZeroSign := by
  rw [dropZeroSign.eq_def n]
  split
  · rfl
  · rename_i nonzero
    rw [dropZeroSign, if_neg nonzero]

theorem eq_zero_of_isZero_dropZeroSign {n : Binary64} (none : n.dropZeroSign.isZero) :
    n.dropZeroSign = zero := by
  rw [← dropZeroSign_dropZeroSign, dropZeroSign, if_pos none]

theorem dropZeroSign_beq {n : Binary64} (finite : n.isFinite) : n.dropZeroSign.beq n := by
  have notNaN := isNaN_of_isFinite finite
  rw [dropZeroSign]
  split
  · rename_i none
    rw [isZero, Bool.and_eq_true_iff, beq_iff_eq, beq_iff_eq] at none
    have order_eq : n.order = 0 := by simp [order, none.1, none.2]
    rw [beq, notNaN, order_eq]
    rfl
  · rw [beq_self, notNaN]
    rfl

end Binary64

namespace Value

theorem jsonNumber_eq {n : Binary64} (finite : n.isFinite) :
    jsonNumber n = .number n.dropZeroSign := by
  rw [jsonNumber, finite, Bool.not_true, if_neg Bool.false_ne_true, Binary64.dropZeroSign]
  split
  · rename_i integral
    rw [Binary64.ofInt_toInt (Bool.and_eq_true_iff.mp integral).1]
  · rename_i notIntegral
    have nonzero : ¬ n.isZero := by
      intro none
      have whole := Binary64.isInteger_of_isZero none
      rw [whole, (Binary64.toInt_eq_zero_iff whole).mpr none] at notIntegral
      exact notIntegral (by decide)
    rw [if_neg nonzero]

/-! ## Parts of values -/

/-- A value that has no parts. -/
def isScalar : Value → Bool
  | array _ | object _ => false
  | _ => true

/-- What holds of a value if it holds of its parts holds of all values. -/
theorem induction {motive : Value → Prop} (scalar : ∀ v, v.isScalar → motive v)
    (array : ∀ items, (∀ item ∈ items, motive item) → motive (array items))
    (object : ∀ fields, (∀ field ∈ fields, motive field.2) → motive (object fields)) (v : Value) :
    motive v := by
  refine @Value.rec motive (fun items => ∀ item ∈ items, motive item)
    (fun fields => ∀ field ∈ fields, motive field.2) (fun field => motive field.2)
    (scalar _ rfl) (scalar _ rfl) (fun _ => scalar _ rfl) (fun _ => scalar _ rfl)
    (fun _ => scalar _ rfl) array object (fun _ => scalar _ rfl) (fun _ => scalar _ rfl)
    (fun _ => scalar _ rfl) nofun ?_ nofun ?_ (fun _ _ holds => holds) v
  · exact fun item items here others => List.forall_mem_cons.mpr ⟨here, others⟩
  · exact fun field fields here others => List.forall_mem_cons.mpr ⟨here, others⟩

/-- A value made of null, booleans, finite numbers, strings, arrays and objects alone. -/
inductive IsData : Value → Prop where
  | null : IsData null
  | bool (b : Bool) : IsData (bool b)
  | number {n : Binary64} (finite : n.isFinite) : IsData (number n)
  | string (s : String) : IsData (string s)
  | array {items : List Value} (each : ∀ item ∈ items, IsData item) : IsData (array items)
  | object {fields : List (String × Value)} (each : ∀ field ∈ fields, IsData field.2) :
      IsData (object fields)

/-- No object in a value repeats a key. -/
inductive HasDistinctKeys : Value → Prop where
  | scalar {v : Value} (isScalar : v.isScalar) : HasDistinctKeys v
  | array {items : List Value} (each : ∀ item ∈ items, HasDistinctKeys item) :
      HasDistinctKeys (array items)
  | object {fields : List (String × Value)} (distinct : (Fields.keys fields).Nodup)
      (each : ∀ field ∈ fields, HasDistinctKeys field.2) : HasDistinctKeys (object fields)

theorem HasDistinctKeys.of_mem_array {items : List Value}
    (distinct : HasDistinctKeys (Value.array items)) : ∀ item ∈ items, HasDistinctKeys item := by
  cases distinct with
  | scalar isScalar => cases isScalar
  | array each => exact each

theorem HasDistinctKeys.of_object {fields : List (String × Value)}
    (distinct : HasDistinctKeys (Value.object fields)) :
    (Fields.keys fields).Nodup ∧ ∀ field ∈ fields, HasDistinctKeys field.2 := by
  cases distinct with
  | scalar isScalar => cases isScalar
  | object keys each => exact ⟨keys, each⟩

mutual

/-- How deeply arrays and objects nest in a value. -/
def depth : Value → ℕ
  | array items => depthOfItems items + 1
  | object fields => depthOfFields fields + 1
  | _ => 0

/-- How deeply arrays and objects nest in the elements of an array. -/
def depthOfItems : List Value → ℕ
  | [] => 0
  | item :: rest => max item.depth (depthOfItems rest)

/-- How deeply arrays and objects nest in the fields of an object. -/
def depthOfFields : List (String × Value) → ℕ
  | [] => 0
  | (_, value) :: rest => max value.depth (depthOfFields rest)

end

mutual

/-- The value without the signs of zeros in it. -/
def dropZeroSigns : Value → Value
  | number n => number n.dropZeroSign
  | array items => array (dropZeroSignsOfItems items)
  | object fields => object (dropZeroSignsOfFields fields)
  | v => v

/-- The elements of an array without the signs of zeros in them. -/
def dropZeroSignsOfItems : List Value → List Value
  | [] => []
  | item :: rest => item.dropZeroSigns :: dropZeroSignsOfItems rest

/-- The fields of an object without the signs of zeros in them. -/
def dropZeroSignsOfFields : List (String × Value) → List (String × Value)
  | [] => []
  | (key, value) :: rest => (key, value.dropZeroSigns) :: dropZeroSignsOfFields rest

end

mutual

/-- The numbers in a value. -/
def numbers : Value → List Binary64
  | number n => [n]
  | array items => numbersOfItems items
  | object fields => numbersOfFields fields
  | _ => []

/-- The numbers in the elements of an array. -/
def numbersOfItems : List Value → List Binary64
  | [] => []
  | item :: rest => item.numbers ++ numbersOfItems rest

/-- The numbers in the fields of an object. -/
def numbersOfFields : List (String × Value) → List Binary64
  | [] => []
  | (_, value) :: rest => value.numbers ++ numbersOfFields rest

end

theorem numbers_subset_of_mem_items {item : Value} {items : List Value} (mem : item ∈ items) :
    item.numbers ⊆ (array items).numbers := by
  induction mem with
  | head => exact List.subset_append_left _ _
  | tail other _ ih => exact fun n mem => List.mem_append_right _ (ih mem)

theorem numbers_subset_of_mem_fields {field : String × Value} {fields : List (String × Value)}
    (mem : field ∈ fields) : field.2.numbers ⊆ (object fields).numbers := by
  induction mem with
  | head => exact List.subset_append_left _ _
  | tail other _ ih => exact fun n mem => List.mem_append_right _ (ih mem)

theorem depth_le_depthOfItems {item : Value} {items : List Value} (mem : item ∈ items) :
    item.depth ≤ depthOfItems items := by
  induction mem with
  | head => exact Nat.le_max_left _ _
  | tail other _ ih => exact ih.trans (Nat.le_max_right _ _)

theorem depth_le_depthOfFields {field : String × Value} {fields : List (String × Value)}
    (mem : field ∈ fields) : field.2.depth ≤ depthOfFields fields := by
  induction mem with
  | head => exact Nat.le_max_left _ _
  | tail other _ ih => exact ih.trans (Nat.le_max_right _ _)

theorem dropZeroSignsOfItems_eq_map (items : List Value) :
    dropZeroSignsOfItems items = items.map dropZeroSigns := by
  induction items with
  | nil => rfl
  | cons item items ih => rw [dropZeroSignsOfItems, ih, List.map_cons]

theorem dropZeroSignsOfFields_eq_map (fields : List (String × Value)) :
    dropZeroSignsOfFields fields = fields.map fun field => (field.1, field.2.dropZeroSigns) := by
  induction fields with
  | nil => rfl
  | cons field fields ih => rw [dropZeroSignsOfFields, ih, List.map_cons]

theorem toJsonItems_eq_map (items : List Value) :
    toJsonItems items = items.map fun item => item.toJson?.getD .null := by
  induction items with
  | nil => rfl
  | cons item items ih => rw [toJsonItems, ih, List.map_cons]

theorem toJsonFields_eq_filterMap (fields : List (String × Value)) :
    toJsonFields fields = fields.filterMap fun field => field.2.toJson?.map (field.1, ·) := by
  induction fields with
  | nil => rfl
  | cons field fields ih =>
      rw [toJsonFields, ih, List.filterMap_cons]
      cases field.2.toJson? <;> rfl

theorem ofJsonItems_eq_map (items : List Json) : ofJsonItems items = items.map ofJson := by
  induction items with
  | nil => rfl
  | cons item items ih => rw [ofJsonItems, ih, List.map_cons]

theorem ofJsonFields_eq_map (fields : List (String × Json)) :
    ofJsonFields fields = fields.map fun field => (field.1, ofJson field.2) := by
  induction fields with
  | nil => rfl
  | cons field fields ih => rw [ofJsonFields, ih, List.map_cons]

end Value

end Stencil
