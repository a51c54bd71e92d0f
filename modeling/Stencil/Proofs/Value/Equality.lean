import Stencil.Proofs.Value.StrictEquality

/-!
# Laws of equality

The order of the keys of objects does not count for equality, at any depth.  Loose equality converts
operands at most once, and what it converts them to decides.
-/

namespace Stencil.Value

variable {a b c : Value}

/-! ## Reordered values -/

/-- The same value with the fields of objects in it in another order. -/
inductive Reordered : Value → Value → Prop where
  | refl (v : Value) : Reordered v v
  | trans {a b c : Value} (first : Reordered a b) (second : Reordered b c) : Reordered a c
  | fields {fields entries : List (String × Value)} (perm : fields.Perm entries) :
      Reordered (object fields) (object entries)
  | element (before after : List Value) {a b : Value} (inside : Reordered a b) :
      Reordered (array (before ++ a :: after)) (array (before ++ b :: after))
  | field (before after : List (String × Value)) (key : String) {a b : Value}
      (inside : Reordered a b) :
      Reordered (object (before ++ (key, a) :: after)) (object (before ++ (key, b) :: after))

theorem Reordered.hasDistinctKeys (reordered : Reordered a b) (distinct : a.HasDistinctKeys) :
    b.HasDistinctKeys := by
  induction reordered with
  | refl v => exact distinct
  | trans first second ih also => exact also (ih distinct)
  | fields perm =>
      rcases distinct.of_object with ⟨keys, each⟩
      exact .object ((perm.map Prod.fst).nodup_iff.mp keys) fun field mem =>
        each field (perm.mem_iff.mpr mem)
  | element before after inside ih =>
      have each := distinct.of_mem_array
      rw [List.forall_mem_append, List.forall_mem_cons] at each
      refine .array ?_
      rw [List.forall_mem_append, List.forall_mem_cons]
      exact ⟨each.1, ih each.2.1, each.2.2⟩
  | field before after key inside ih =>
      rcases distinct.of_object with ⟨keys, each⟩
      rw [List.forall_mem_append, List.forall_mem_cons] at each
      refine .object (by simpa [Fields.keys] using keys) ?_
      rw [List.forall_mem_append, List.forall_mem_cons]
      exact ⟨each.1, ih each.2.1, each.2.2⟩

theorem texts_eq_map (items : List Value) :
    texts items = items.map fun item => if item.isNullish then "" else item.text := by
  induction items with
  | nil => rfl
  | cons item rest ih => rw [texts, ih, List.map_cons]

theorem strictEqItems_congr (before after : List Value) (same : ∀ c, a.strictEq c = b.strictEq c)
    (others : List Value) : strictEqItems (before ++ a :: after) others =
      strictEqItems (before ++ b :: after) others := by
  induction before generalizing others with
  | nil =>
      cases others with
      | nil => rfl
      | cons other rest => rw [List.nil_append, List.nil_append, strictEqItems, strictEqItems, same]
  | cons item before ih =>
      cases others with
      | nil => rfl
      | cons other rest => rw [List.cons_append, List.cons_append, strictEqItems, strictEqItems, ih]

/-- Whether a value is a boolean. -/
def isBool : Value → Bool
  | bool _ => true
  | _ => false

/-- Two values that equality treats alike. -/
structure TreatedAlike (a b : Value) : Prop where
  text : a.text = b.text
  toNumber : a.toNumber = b.toNumber
  toPrimitive : a.toPrimitive = b.toPrimitive
  isNullish : a.isNullish = b.isNullish
  isBool : a.isBool = b.isBool
  isCompound : a.isCompound = b.isCompound
  strictEq (c : Value) : a.strictEq c = b.strictEq c

theorem isNullish_of_isCompound (compound : a.isCompound) : a.isNullish = false := by
  cases a <;> first | rfl | cases compound

theorem isBool_of_isCompound (compound : a.isCompound) : a.isBool = false := by
  cases a <;> first | rfl | cases compound

/-- Two compound values are treated alike if their output forms, numbers and equals are the same. -/
theorem treatedAlike_of_isCompound (compound : a.isCompound) (compoundAlso : b.isCompound)
    (text : a.text = b.text) (toNumber : a.toNumber = b.toNumber)
    (strictEq : ∀ c, a.strictEq c = b.strictEq c) : TreatedAlike a b where
  text := text
  toNumber := toNumber
  toPrimitive := by rw [toPrimitive, if_pos compound, toPrimitive, if_pos compoundAlso, text]
  isNullish := by rw [isNullish_of_isCompound compound, isNullish_of_isCompound compoundAlso]
  isBool := by rw [isBool_of_isCompound compound, isBool_of_isCompound compoundAlso]
  isCompound := compound.trans compoundAlso.symm
  strictEq := strictEq

theorem Reordered.treatedAlike (reordered : Reordered a b) : TreatedAlike a b := by
  induction reordered with
  | refl v => exact ⟨rfl, rfl, rfl, rfl, rfl, rfl, fun _ => rfl⟩
  | trans first second ih also =>
      exact ⟨ih.text.trans also.text, ih.toNumber.trans also.toNumber,
        ih.toPrimitive.trans also.toPrimitive, ih.isNullish.trans also.isNullish,
        ih.isBool.trans also.isBool, ih.isCompound.trans also.isCompound,
        fun c => (ih.strictEq c).trans (also.strictEq c)⟩
  | fields perm =>
      -- The output form of an object does not show its fields.
      refine treatedAlike_of_isCompound rfl rfl rfl rfl fun c => ?_
      cases c with
      | object others =>
          rw [Value.strictEq, Value.strictEq, strictEqFields_eq_all, strictEqFields_eq_all,
            perm.all_eq, perm.length_eq]
      | _ => rfl
  | @element before after a b inside ih =>
      have sameText :
          (array (before ++ a :: after)).text = (array (before ++ b :: after)).text := by
        simp only [Value.text, texts_eq_map, List.map_append, List.map_cons, ih.text, ih.isNullish]
      refine treatedAlike_of_isCompound rfl rfl sameText ?_ fun c => ?_
      · rw [Value.toNumber, sameText, Value.toNumber]
      · cases c with
        | array others => exact strictEqItems_congr before after ih.strictEq others
        | _ => rfl
  | @field before after key a b inside ih =>
      refine treatedAlike_of_isCompound rfl rfl rfl rfl fun c => ?_
      cases c with
      | object others =>
          have samePartner : hasPartner others (key, a) = hasPartner others (key, b) := by
            simp only [hasPartner, ih.strictEq]
          rw [Value.strictEq, Value.strictEq, strictEqFields_eq_all, strictEqFields_eq_all,
            List.all_append, List.all_append, List.all_cons, List.all_cons, samePartner,
            List.length_append, List.length_append, List.length_cons, List.length_cons]
      | _ => rfl

/-! ## Loose equality -/

theorem isBool_eq_false (notBool : ∀ b, a = bool b → False) : a.isBool = false := by
  cases a with
  | bool b => exact (notBool b rfl).elim
  | _ => rfl

/-- Loose equality in four cases. -/
theorem looseEq_eq (a b : Value) : a.looseEq b =
    if a.isNullish || b.isNullish then a.isNullish && b.isNullish
    else if a.isBool || b.isBool then a.toNumber.beq b.toNumber
    else if a.isCompound && b.isCompound then a.strictEq b
    else looseEqPrimitive a.toPrimitive b.toPrimitive := by
  fun_cases looseEq a b
  · rename_i nullish
    rw [if_pos nullish]
  · rename_i x y _
    cases x <;> cases y <;> rfl
  · rename_i notNullish
    rw [if_neg notNullish, if_pos]
    rfl
  · rename_i notNullish
    rw [if_neg notNullish, if_pos]
    exact Bool.or_true _
  all_goals
    rename_i firstNotBool secondNotBool notNullish _ _
    rw [if_neg notNullish, isBool_eq_false firstNotBool, isBool_eq_false secondNotBool]
    rfl

theorem looseEqPrimitive_comm (a b : Value) : looseEqPrimitive a b = looseEqPrimitive b a := by
  fun_cases looseEqPrimitive a b
  · exact Bool.beq_comm
  · rename_i notStrings
    rw [looseEqPrimitive.eq_2 b a fun s t second first => notStrings t s first second]
    exact Binary64.beq_comm _ _

theorem looseEq_comm (distinct : a.HasDistinctKeys) (distinctAlso : b.HasDistinctKeys) :
    a.looseEq b = b.looseEq a := by
  rw [looseEq_eq, looseEq_eq b a, Bool.or_comm b.isNullish, Bool.and_comm b.isNullish,
    Bool.or_comm b.isBool, Bool.and_comm b.isCompound, Binary64.beq_comm b.toNumber,
    looseEqPrimitive_comm b.toPrimitive, strictEq_comm distinctAlso distinct]

theorem looseEq_of_strictEq (distinct : a.HasDistinctKeys) (distinctAlso : b.HasDistinctKeys)
    (equal : a.strictEq b) : a.looseEq b := by
  cases (strictEq_iff distinct distinctAlso).mp equal with
  | undefined => rfl
  | null => rfl
  | bool b => exact beq_self_eq_true b
  | string s => exact beq_self_eq_true s
  | number same => exact same
  | _ => exact equal

/-! ### Conversions one by one -/

/-- What loose equality comes to at once: an answer, or two values to compare in place of the
operands. -/
inductive LooseStep where
  | answer (equal : Bool)
  | convert (left right : Value)

/-- One step of loose equality.  A boolean makes numbers of both operands, and a compound value
becomes a primitive if the other one is. -/
def looseStep (a b : Value) : LooseStep :=
  if a.isNullish || b.isNullish then .answer (a.isNullish && b.isNullish)
  else
    match a, b with
    | string _, string _ | number _, number _ | bool _, bool _ => .answer (a.strictEq b)
    | bool _, _ | _, bool _ => .convert (number a.toNumber) (number b.toNumber)
    | number _, string _ | string _, number _ => .answer (a.toNumber.beq b.toNumber)
    | a, b =>
        if a.isCompound && b.isCompound then .answer (a.strictEq b)
        else if a.isCompound then .convert a.toPrimitive b
        else if b.isCompound then .convert a b.toPrimitive
        else .answer (a.strictEq b)

/-- Steps of loose equality, one after the other, that end with an answer. -/
inductive LooselyAnswers : Value → Value → Bool → Prop where
  | answer {a b : Value} {equal : Bool} (step : looseStep a b = .answer equal) :
      LooselyAnswers a b equal
  | convert {a b left right : Value} {equal : Bool} (step : looseStep a b = .convert left right)
      (rest : LooselyAnswers left right equal) : LooselyAnswers a b equal

/-- A step gives the answer of loose equality, or operands that have the same one in the next
step. -/
theorem looseStep_cases (a b : Value) : looseStep a b = .answer (a.looseEq b) ∨
    ∃ left right, looseStep a b = .convert left right ∧
      looseStep left right = .answer (a.looseEq b) := by
  cases a <;> cases b <;> first | exact .inl rfl | exact .inr ⟨_, _, rfl, rfl⟩

/-- Loose equality ends with its answer, after one conversion at most. -/
theorem looselyAnswers_iff {equal : Bool} : LooselyAnswers a b equal ↔ a.looseEq b = equal := by
  constructor
  · intro run
    induction run with
    | @answer a b equal step =>
        rcases looseStep_cases a b with answered | ⟨left, right, converted, -⟩
        · exact LooseStep.answer.inj (answered.symm.trans step)
        · cases converted.symm.trans step
    | @convert a b left right equal step rest ih =>
        rcases looseStep_cases a b with answered | ⟨left', right', converted, next⟩
        · cases answered.symm.trans step
        · cases converted.symm.trans step
          -- The step after a conversion is an answer, so it is not a second conversion.
          rcases looseStep_cases left right with answered | ⟨_, _, again, -⟩
          · exact (LooseStep.answer.inj (answered.symm.trans next)).symm.trans ih
          · cases again.symm.trans next
  · rintro rfl
    rcases looseStep_cases a b with answered | ⟨left, right, converted, next⟩
    · exact .answer answered
    · exact .convert converted (.answer next)

/-! ## The laws -/

theorem TreatedAlike.looseEq (alike : TreatedAlike a b) (c : Value) :
    a.looseEq c = b.looseEq c := by
  rw [looseEq_eq, looseEq_eq, alike.isNullish, alike.isBool, alike.isCompound, alike.toNumber,
    alike.toPrimitive, alike.strictEq]

/-- A symmetric comparison that does not tell values apart which are treated alike does not see the
order of keys in either operand. -/
theorem eq_of_reordered {compare : Value → Value → Bool}
    (blind : ∀ {a b}, TreatedAlike a b → ∀ c, compare a c = compare b c)
    (comm : ∀ {a b}, a.HasDistinctKeys → b.HasDistinctKeys → compare a b = compare b a)
    (distinct : a.HasDistinctKeys) (distinctAlso : b.HasDistinctKeys) {a' b' : Value}
    (left : Reordered a a') (right : Reordered b b') : compare a b = compare a' b' :=
  have distinctLeft := left.hasDistinctKeys distinct
  calc compare a b = compare a' b := blind left.treatedAlike b
    _ = compare b a' := comm distinctLeft distinctAlso
    _ = compare b' a' := blind right.treatedAlike a'
    _ = compare a' b' := comm (right.hasDistinctKeys distinctAlso) distinctLeft

/-- The laws of equality, for values in which no object repeats a key.

- Strict equality is symmetric and transitive, and a value equals itself exactly if it holds no NaN.
- Loose equality ends with an answer, is symmetric and holds where strict equality does.
- The order of keys, at any depth of either operand, changes neither. -/
theorem equality_laws (distinct : a.HasDistinctKeys) (distinctAlso : b.HasDistinctKeys)
    (distinctLast : c.HasDistinctKeys) :
    a.strictEq b = b.strictEq a ∧
      (a.strictEq b → b.strictEq c → a.strictEq c) ∧
      (a.strictEq a ↔ ¬ HoldsNaN a) ∧
      (∀ equal, LooselyAnswers a b equal ↔ a.looseEq b = equal) ∧
      a.looseEq b = b.looseEq a ∧
      (a.strictEq b → a.looseEq b) ∧
      ∀ a' b', Reordered a a' → Reordered b b' →
        a.strictEq b = a'.strictEq b' ∧ a.looseEq b = a'.looseEq b' :=
  ⟨strictEq_comm distinct distinctAlso, strictEq_trans distinct distinctAlso distinctLast,
    strictEq_self_iff distinct, fun _ => looselyAnswers_iff, looseEq_comm distinct distinctAlso,
    looseEq_of_strictEq distinct distinctAlso,
    fun _ _ left right =>
      ⟨eq_of_reordered TreatedAlike.strictEq strictEq_comm distinct distinctAlso left right,
        eq_of_reordered TreatedAlike.looseEq looseEq_comm distinct distinctAlso left right⟩⟩

/-- The laws for an object and the same object with its keys swapped. -/
theorem equality_laws_swapped_keys : ∃ a b : Value,
    a = object [("x", nat 1), ("y", array [null])] ∧
      b = object [("y", array [null]), ("x", nat 1)] ∧
      a.HasDistinctKeys ∧ b.HasDistinctKeys ∧ ¬ HoldsNaN a ∧ LooselyAnswers b a true ∧
      (a.strictEq a ∧ a.strictEq b ∧ b.strictEq a ∧ a.looseEq b ∧ b.looseEq a) := by
  have distinct : (object [("x", nat 1), ("y", array [null])]).HasDistinctKeys := by
    refine .object (by decide) ?_
    simp only [List.forall_mem_cons, List.not_mem_nil, false_imp_iff, implies_true, and_true]
    exact ⟨.scalar rfl, .array (List.forall_mem_singleton.mpr (.scalar rfl))⟩
  have reordered : Reordered (object [("x", nat 1), ("y", array [null])])
      (object [("y", array [null]), ("x", nat 1)]) := .fields (.swap _ _ _)
  have distinctAlso := reordered.hasDistinctKeys distinct
  have self : (object [("x", nat 1), ("y", array [null])]).strictEq
      (object [("x", nat 1), ("y", array [null])]) := by decide +kernel
  rcases equality_laws distinct distinct distinct with ⟨-, -, noNaN, -, -, loose, same⟩
  rcases equality_laws distinct distinctAlso distinct with ⟨comm, -, -, -, looseComm, -, -⟩
  rcases equality_laws distinctAlso distinct distinct with ⟨-, -, -, answers, -, -, -⟩
  rcases same _ _ (.refl _) reordered with ⟨strict, lax⟩
  have equal := strict ▸ self
  have looselyEqual := lax ▸ loose self
  exact ⟨_, _, rfl, rfl, distinct, distinctAlso, noNaN.mp self,
    (answers true).mpr (looseComm ▸ looselyEqual), self, equal, comm ▸ equal, looselyEqual,
    looseComm ▸ looselyEqual⟩

end Stencil.Value
