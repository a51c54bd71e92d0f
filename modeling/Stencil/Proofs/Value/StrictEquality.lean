import Mathlib.Data.List.Perm.Subperm
import Stencil.Proofs.Fields
import Stencil.Proofs.Value.Data

/-!
# Strict equality

The comparison of two values asks one thing of the values and the same of their parts.  By this one
step strict equality is symmetric and transitive, and reflexive where there is no NaN.  It sees
objects as mappings.
-/

namespace Stencil

theorem Binary64.beq_trans {x y z : Binary64} (first : x.beq y) (second : y.beq z) : x.beq z := by
  simp only [beq, Bool.and_eq_true, Bool.not_eq_true', beq_iff_eq] at first second ⊢
  exact ⟨⟨first.1.1, second.1.2⟩, first.2.trans second.2⟩

namespace Value

open Fields (find?)

variable {a b c : Value} {items others : List Value} {fields entries : List (String × Value)}
  {r s t : Value → Value → Prop}

/-! ## One step of the comparison -/

/-- What a value is made of. -/
def parts : Value → List Value
  | array items => items
  | object fields => fields.map Prod.snd
  | _ => []

/-- Equality of two values whose parts are compared by a relation. -/
inductive EqualBy (r : Value → Value → Prop) : Value → Value → Prop where
  | undefined : EqualBy r undefined undefined
  | null : EqualBy r null null
  | bool (b : Bool) : EqualBy r (bool b) (bool b)
  | number {m n : Binary64} (equal : m.beq n) : EqualBy r (number m) (number n)
  | string (s : String) : EqualBy r (string s) (string s)
  | array {items others : List Value} (each : ∀ i : ℕ, Option.Rel r items[i]? others[i]?) :
      EqualBy r (array items) (array others)
  | object {fields entries : List (String × Value)}
      (each : ∀ key, Option.Rel r (find? key fields) (find? key entries)) :
      EqualBy r (object fields) (object entries)
  | date (t : Calendar.Instant) : EqualBy r (date t) (date t)
  | url {u other : Url} (same : u.href = other.href) : EqualBy r (url u) (url other)
  | builtin (b : Builtin) : EqualBy r (builtin b) (builtin b)

theorem mem_parts_of_find? {key : String} {part : Value} (found : part ∈ find? key fields) :
    part ∈ (object fields).parts :=
  List.mem_map_of_mem (f := Prod.snd) (Fields.mem_of_find? found)

theorem HasDistinctKeys.of_mem_parts (distinct : a.HasDistinctKeys) {part : Value}
    (mem : part ∈ a.parts) : part.HasDistinctKeys := by
  cases a with
  | array items => exact distinct.of_mem_array part mem
  | object fields =>
      rcases List.mem_map.mp mem with ⟨field, fieldMem, rfl⟩
      exact distinct.of_object.2 field fieldMem
  | _ => cases mem

/-- What holds of a value if it holds of its parts holds of all values. -/
theorem induction_parts {motive : Value → Prop}
    (step : ∀ v, (∀ part ∈ v.parts, motive part) → motive v) (v : Value) : motive v := by
  refine Value.induction ?_ (fun items each => step _ each) ?_ v
  · intro v isScalar
    refine step v fun part mem => ?_
    cases v with
    | array items => cases isScalar
    | object fields => cases isScalar
    | _ => cases mem
  · intro fields each
    refine step _ fun part mem => ?_
    rcases List.mem_map.mp mem with ⟨field, fieldMem, rfl⟩
    exact each field fieldMem

/-! ### Laws of one step -/

theorem rel_flip {x y : Option Value} (each : ∀ part ∈ x, ∀ other ∈ y, r part other → s other part)
    (related : Option.Rel r x y) : Option.Rel s y x := by
  cases related with
  | some holds => exact .some (each _ rfl _ rfl holds)
  | none => exact .none

theorem rel_trans {x y z : Option Value}
    (each : ∀ part ∈ x, ∀ other ∈ y, ∀ last ∈ z, r part other → s other last → t part last)
    (first : Option.Rel r x y) (second : Option.Rel s y z) : Option.Rel t x z := by
  cases first with
  | some here =>
      cases second with
      | some there => exact .some (each _ rfl _ rfl _ rfl here there)
  | none =>
      cases second
      exact .none

theorem rel_self {x : Option Value} (each : ∀ part ∈ x, r part part) : Option.Rel r x x := by
  cases x with
  | none => exact .none
  | some part => exact .some (each part rfl)

theorem rel_isSome {x y : Option Value} (related : Option.Rel r x y) : x.isSome = y.isSome := by
  cases related <;> rfl

theorem rel_some {part : Value} {y : Option Value} (related : Option.Rel r (some part) y) :
    ∃ other, y = some other ∧ r part other := by
  cases related with
  | some holds => exact ⟨_, rfl, holds⟩

theorem EqualBy.flip (each : ∀ part ∈ a.parts, ∀ other ∈ b.parts, r part other → s other part)
    (equal : EqualBy r a b) : EqualBy s b a := by
  cases equal with
  | undefined => exact .undefined
  | null => exact .null
  | bool b => exact .bool b
  | number equal => exact .number (Binary64.beq_comm _ _ ▸ equal)
  | string s => exact .string s
  | array related =>
      refine .array fun i => rel_flip (fun part mem other otherMem => ?_) (related i)
      exact each part (List.mem_of_getElem? mem) other (List.mem_of_getElem? otherMem)
  | object related =>
      refine .object fun key => rel_flip (fun part mem other otherMem => ?_) (related key)
      exact each part (mem_parts_of_find? mem) other (mem_parts_of_find? otherMem)
  | date t => exact .date t
  | url same => exact .url same.symm
  | builtin b => exact .builtin b

theorem EqualBy.trans
    (each : ∀ part ∈ a.parts, ∀ other ∈ b.parts, ∀ last ∈ c.parts,
      r part other → s other last → t part last)
    (first : EqualBy r a b) (second : EqualBy s b c) : EqualBy t a c := by
  cases first with
  | undefined => cases second; exact .undefined
  | null => cases second; exact .null
  | bool b => cases second; exact .bool b
  | number equal =>
      cases second with
      | number also => exact .number (Binary64.beq_trans equal also)
  | string s => cases second; exact .string s
  | array related =>
      cases second with
      | array also =>
          refine .array fun i => rel_trans (fun part mem other otherMem last lastMem => ?_)
            (related i) (also i)
          exact each part (List.mem_of_getElem? mem) other (List.mem_of_getElem? otherMem) last
            (List.mem_of_getElem? lastMem)
  | object related =>
      cases second with
      | object also =>
          refine .object fun key => rel_trans (fun part mem other otherMem last lastMem => ?_)
            (related key) (also key)
          exact each part (mem_parts_of_find? mem) other (mem_parts_of_find? otherMem) last
            (mem_parts_of_find? lastMem)
  | date t => cases second; exact .date t
  | url same =>
      cases second with
      | url also => exact .url (same.trans also)
  | builtin b => cases second; exact .builtin b

/-- A value that is a NaN or has a part that holds one. -/
inductive HoldsNaN : Value → Prop where
  | number {n : Binary64} (isNaN : n.isNaN) : HoldsNaN (number n)
  | part {v part : Value} (mem : part ∈ v.parts) (holds : HoldsNaN part) : HoldsNaN v

theorem EqualBy.self (noNaN : ¬ HoldsNaN a) (each : ∀ part ∈ a.parts, r part part) :
    EqualBy r a a := by
  cases a with
  | undefined => exact .undefined
  | null => exact .null
  | bool b => exact .bool b
  | number n =>
      refine .number ?_
      rw [Binary64.beq_self, Bool.not_eq_true', Bool.eq_false_iff]
      exact fun isNaN => noNaN (.number isNaN)
  | string s => exact .string s
  | array items =>
    exact .array fun i => rel_self fun part mem => each part (List.mem_of_getElem? mem)
  | object fields =>
    exact .object fun key => rel_self fun part mem => each part (mem_parts_of_find? mem)
  | date t => exact .date t
  | url u => exact .url rfl
  | builtin b => exact .builtin b

/-! ## Strict equality -/

theorem strictEqItems_iff : strictEqItems items others ↔
    ∀ i : ℕ, Option.Rel (fun part other => part.strictEq other) items[i]? others[i]? := by
  induction items generalizing others with
  | nil =>
      cases others with
      | nil => exact ⟨fun _ i => .none, fun _ => rfl⟩
      | cons other rest => exact ⟨nofun, fun each => nomatch each 0⟩
  | cons item items ih =>
      cases others with
      | nil => exact ⟨nofun, fun each => nomatch each 0⟩
      | cons other rest =>
          rw [strictEqItems, Bool.and_eq_true, ih]
          constructor
          · rintro ⟨here, others⟩ (_ | i)
            · exact .some here
            · exact others i
          · intro each
            refine ⟨?_, fun i => each (i + 1)⟩
            cases each 0 with
            | some here => exact here

/-- Whether a field has an equal partner among other fields. -/
def hasPartner (entries : List (String × Value)) (field : String × Value) : Bool :=
  match find? field.1 entries with
  | some other => strictEq field.2 other
  | none => false

theorem strictEqFields_eq_all (fields entries : List (String × Value)) :
    strictEqFields fields entries = fields.all (hasPartner entries) := by
  induction fields with
  | nil => rfl
  | cons field rest ih =>
      rw [strictEqFields, ih, List.all_cons]
      rfl

theorem hasPartner_iff {field : String × Value} : hasPartner entries field ↔
    ∃ other, find? field.1 entries = some other ∧ field.2.strictEq other := by
  rw [hasPartner]
  cases find? field.1 entries <;> simp

theorem strictEq_object_iff : (object fields).strictEq (object entries) ↔
    fields.length = entries.length ∧
      ∀ field ∈ fields, ∃ other, find? field.1 entries = some other ∧ field.2.strictEq other := by
  rw [strictEq, Bool.and_eq_true, beq_iff_eq, strictEqFields_eq_all, List.all_eq_true]
  simp only [hasPartner_iff]

/-- Of two lists without repetition that are equally long, one contains the other only if they have
the same members. -/
theorem mem_iff_of_subset {α : Type u} {xs ys : List α} (distinct : xs.Nodup) (subset : xs ⊆ ys)
    (long : ys.length ≤ xs.length) (x : α) : x ∈ xs ↔ x ∈ ys :=
  ((distinct.subperm subset).perm_of_length_le long).mem_iff

/-- Objects are compared as mappings. -/
theorem strictEq_object_iff_rel (distinct : (Fields.keys fields).Nodup)
    (distinctEntries : (Fields.keys entries).Nodup) : (object fields).strictEq (object entries) ↔
      ∀ key, Option.Rel (fun part other => part.strictEq other) (find? key fields)
        (find? key entries) := by
  rw [strictEq_object_iff]
  constructor
  · rintro ⟨sameLength, each⟩ key
    -- The comparison goes through the first object only; that there are no other keys in the
    -- second one is a matter of counting.
    have subset : Fields.keys fields ⊆ Fields.keys entries := by
      intro key mem
      rcases List.mem_map.mp mem with ⟨field, fieldMem, rfl⟩
      rcases each field fieldMem with ⟨other, found, -⟩
      exact Fields.isSome_find?_iff.mp (Option.isSome_of_eq_some found)
    have long : (Fields.keys entries).length ≤ (Fields.keys fields).length := by
      simp only [Fields.keys, List.length_map, sameLength, le_refl]
    have sameKeys := mem_iff_of_subset distinct subset long key
    cases here : find? key fields with
    | none =>
        rw [← Fields.isSome_find?_iff, ← Fields.isSome_find?_iff, here] at sameKeys
        rw [Option.not_isSome_iff_eq_none.mp (mt sameKeys.mpr Bool.false_ne_true)]
        exact .none
    | some part =>
        rcases each (key, part) (Fields.mem_of_find? here) with ⟨other, there, equal⟩
        rw [there]
        exact .some equal
  · intro related
    have sameKeys : (Fields.keys fields).Perm (Fields.keys entries) := by
      refine (List.perm_ext_iff_of_nodup distinct distinctEntries).mpr fun key => ?_
      rw [← Fields.isSome_find?_iff, ← Fields.isSome_find?_iff, rel_isSome (related key)]
    refine ⟨by simpa [Fields.keys] using sameKeys.length_eq, fun field mem => ?_⟩
    have partner := related field.1
    rw [Fields.find?_of_mem distinct mem] at partner
    exact rel_some partner

/-- Values are equal if one step of the comparison finds them equal, and their parts are. -/
theorem strictEq_iff (distinct : a.HasDistinctKeys) (distinctAlso : b.HasDistinctKeys) :
    a.strictEq b ↔ EqualBy (fun part other => part.strictEq other) a b := by
  constructor
  · fun_cases strictEq a b
    all_goals intro equal
    · exact .undefined
    · exact .null
    · exact beq_iff_eq.mp equal ▸ .bool _
    · exact .number equal
    · exact beq_iff_eq.mp equal ▸ .string _
    · exact .array (strictEqItems_iff.mp equal)
    · rename_i fields entries
      have whole : (object fields).strictEq (object entries) := by
        rw [strictEq]
        exact equal
      exact .object
        ((strictEq_object_iff_rel distinct.of_object.1 distinctAlso.of_object.1).mp whole)
    · exact beq_iff_eq.mp equal ▸ .date _
    · exact .url (beq_iff_eq.mp equal)
    · exact beq_iff_eq.mp equal ▸ .builtin _
    · cases equal
  · intro equal
    cases equal with
    | undefined => rfl
    | null => rfl
    | bool b => simp [strictEq]
    | number equal => exact equal
    | string s => simp [strictEq]
    | array each => exact strictEqItems_iff.mpr each
    | object each =>
        exact (strictEq_object_iff_rel distinct.of_object.1 distinctAlso.of_object.1).mpr each
    | date t => simp [strictEq]
    | url same => simp [strictEq, same]
    | builtin b => simp [strictEq]

theorem strictEq_flip (distinct : a.HasDistinctKeys) (distinctAlso : b.HasDistinctKeys)
    (equal : a.strictEq b) : b.strictEq a := by
  induction a using induction_parts generalizing b with
  | step a ih =>
      rw [strictEq_iff distinct distinctAlso] at equal
      rw [strictEq_iff distinctAlso distinct]
      exact equal.flip fun part mem other otherMem =>
        ih part mem (distinct.of_mem_parts mem) (distinctAlso.of_mem_parts otherMem)

theorem strictEq_comm (distinct : a.HasDistinctKeys) (distinctAlso : b.HasDistinctKeys) :
    a.strictEq b = b.strictEq a :=
  Bool.eq_iff_iff.mpr ⟨strictEq_flip distinct distinctAlso, strictEq_flip distinctAlso distinct⟩

theorem strictEq_trans (distinct : a.HasDistinctKeys) (distinctAlso : b.HasDistinctKeys)
    (distinctLast : c.HasDistinctKeys) (first : a.strictEq b) (second : b.strictEq c) :
    a.strictEq c := by
  induction a using induction_parts generalizing b c with
  | step a ih =>
      rw [strictEq_iff distinct distinctAlso] at first
      rw [strictEq_iff distinctAlso distinctLast] at second
      rw [strictEq_iff distinct distinctLast]
      refine first.trans (fun part mem other otherMem last lastMem => ?_) second
      exact ih part mem (distinct.of_mem_parts mem) (distinctAlso.of_mem_parts otherMem)
        (distinctLast.of_mem_parts lastMem)

theorem EqualBy.parts_self (distinct : a.HasDistinctKeys) (equal : EqualBy r a a) :
    ∀ part ∈ a.parts, r part part := by
  intro part mem
  cases equal with
  | array related =>
      rcases List.getElem?_of_mem mem with ⟨i, found⟩
      have here := related i
      rw [parts] at found
      rw [found] at here
      cases here with
      | some holds => exact holds
  | object related =>
      rcases List.mem_map.mp mem with ⟨field, fieldMem, rfl⟩
      have here := related field.1
      rw [Fields.find?_of_mem distinct.of_object.1 fieldMem] at here
      cases here with
      | some holds => exact holds
  | _ => cases mem

/-- A value equals itself exactly if it holds no NaN. -/
theorem strictEq_self_iff (distinct : a.HasDistinctKeys) : a.strictEq a ↔ ¬ HoldsNaN a := by
  induction a using induction_parts with
  | step a ih =>
      have each part (mem : part ∈ a.parts) := ih part mem (distinct.of_mem_parts mem)
      rw [strictEq_iff distinct distinct]
      constructor
      · rintro equal (⟨isNaN⟩ | ⟨mem, holds⟩)
        · cases equal with
          | number same =>
              rw [Binary64.beq_self, isNaN] at same
              cases same
        · exact (each _ mem).mp (equal.parts_self distinct _ mem) holds
      · intro noNaN
        exact .self noNaN fun part mem => (each part mem).mpr fun holds => noNaN (.part mem holds)

end Value

end Stencil
