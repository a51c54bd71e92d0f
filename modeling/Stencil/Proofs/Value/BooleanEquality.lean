import Stencil.Proofs.Eval.Relational
import Stencil.Proofs.Number.Integer
import Stencil.Proofs.Value.Equality
import Stencil.Proofs.Value.NumericText

/-!
# Loose equality with booleans

With a boolean a value is compared by its own number, and with a number by the number of its
primitive.  The two numbers are the same for every value but a date, whose output form is no number.
So loose equality with a boolean is loose equality with its number, unless a date is as many
milliseconds after the start of 1970.
-/

namespace Stencil

open Text

namespace Text

variable {c : Char} {s : List Char}

/-- Trimming keeps whatever is no white space. -/
theorem mem_trim (solid : isSpace c = false) (mem : c ∈ s) : c ∈ trim s := by
  have kept {s : List Char} (mem : c ∈ s) : c ∈ s.dropWhile isSpace := by
    rw [← List.takeWhile_append_dropWhile (p := isSpace) (l := s), List.mem_append] at mem
    refine mem.resolve_left fun space => ?_
    rw [List.mem_takeWhile_imp space] at solid
    cases solid
  exact List.mem_reverse.mpr (kept (List.mem_reverse.mpr (kept mem)))

end Text

namespace Number

/-! ## Texts with a colon -/

theorem Denotes.not_mem_colon {text : List Char} {n : Binary64} (denotes : Denotes text n) :
    ':' ∉ text := by
  cases denotes with
  | blank => exact List.not_mem_nil
  | infinity isSign =>
      simp only [signs, List.mem_cons, List.not_mem_nil, or_false] at isSign
      rcases isSign with rfl | rfl | rfl <;> decide
  | decimal isSign literal =>
      intro mem
      rcases List.mem_append.mp mem with mem | mem
      · simp only [signs, List.mem_cons, List.not_mem_nil, or_false] at isSign
        rcases isSign with rfl | rfl | rfl <;> revert mem <;> decide
      · cases literal.all_isLiteralChar ':' mem
  | hex isMark _ all _ =>
      intro mem
      simp only [List.mem_cons, List.not_mem_nil, or_false] at isMark mem
      rcases mem with mem | mem | mem
      · cases mem
      · subst mem
        rcases isMark with isMark | isMark <;> cases isMark
      · cases all ':' mem

theorem DenotesSignedWord.not_mem_colon {text : List Char} {n : Binary64}
    (denotes : DenotesSignedWord text n) : ':' ∉ text := by
  cases denotes with
  | hex isMark isSign _ all _ _ _ =>
      intro mem
      simp only [List.mem_cons, List.not_mem_nil, or_false] at isMark isSign mem
      rcases mem with mem | mem | mem | mem
      · cases mem
      · subst mem
        rcases isMark with isMark | isMark <;> cases isMark
      · subst mem
        rcases isSign with isSign | isSign <;> cases isSign
      · cases all ':' mem

/-- A text with a colon is no number. -/
theorem isNaN_ofText_of_mem {source : String} (mem : ':' ∈ source.toList) :
    (ofText source).isNaN = true := by
  by_contra isNumber
  have kept := mem_trim (by decide) mem
  rcases denotes_of_ofText (Bool.not_eq_true _ ▸ isNumber) with denotes | signed
  · exact denotes.not_mem_colon kept
  · exact signed.not_mem_colon kept

end Number

namespace Value

/-! ## The two conversions -/

/-- Loose equality is symmetric if an operand is no compound value. -/
theorem looseEq_comm_of_primitive {a b : Value} (primitive : b.isCompound = false) :
    a.looseEq b = b.looseEq a := by
  rw [looseEq_eq, looseEq_eq b a, Bool.or_comm b.isNullish, Bool.and_comm b.isNullish,
    Bool.or_comm b.isBool, Binary64.beq_comm b.toNumber, looseEqPrimitive_comm b.toPrimitive,
    primitive, Bool.and_false, Bool.false_and]
  rfl

/-- With a number a value is compared by the number of its primitive. -/
theorem looseEq_number (v : Value) (n : Binary64) :
    v.looseEq (number n) = (!v.isNullish && v.toPrimitive.toNumber.beq n) := by
  have primitive : looseEqPrimitive v.toPrimitive (number n) = v.toPrimitive.toNumber.beq n :=
    looseEqPrimitive.eq_2 _ _ fun _ _ _ same => by cases same
  have converted (b : Bool) : (bool b).toPrimitive = bool b := rfl
  rw [looseEq_eq, show (number n).toPrimitive = number n from rfl, primitive]
  cases v <;> simp [isNullish, isBool, isCompound, converted, toNumber]

/-- With a boolean a value is compared by its own number. -/
theorem looseEq_bool (v : Value) (b : Bool) :
    v.looseEq (bool b) = (!v.isNullish && v.toNumber.beq (Binary64.ofNat b.toNat)) := by
  rw [looseEq_eq]
  cases v <;> simp [isNullish, isBool, toNumber]

/-- The output form of an object, an address or a built-in is no number. -/
theorem isNaN_ofText_text {v : Value} (plain : v.isCompound) (notDate : ∀ t, v ≠ date t)
    (notArray : ∀ items, v ≠ array items) : (Number.ofText v.text).isNaN = true := by
  have bracket : Number.NoFront '[' := ⟨by decide, by decide, by decide⟩
  have letter : Number.NoFront 'f' := ⟨by decide, by decide, by decide⟩
  cases v with
  | array items => exact absurd rfl (notArray items)
  | date t => exact absurd rfl (notDate t)
  | object fields =>
      have begins : (object fields).text.toList = '[' :: "object Object]".toList := by
        rw [text]
        rfl
      rw [Number.ofText_eq_nan bracket begins]
      rfl
  | url u =>
      refine Number.isNaN_ofText_of_mem ?_
      simp [text, Url.href]
  | builtin b =>
      have begins : ∃ c rest, b.text.toList = c :: rest ∧ Number.NoFront c := by
        rw [Builtin.text]
        split
        · exact ⟨'f', _, by simp [String.toList_append]; rfl, letter⟩
        · exact ⟨'[', _, by simp [String.toList_append]; rfl, bracket⟩
      rcases begins with ⟨c, rest, split, front⟩
      rw [text, Number.ofText_eq_nan front split]
      rfl
  | _ => cases plain

/-- Except for dates, a value and its primitive are the same number. -/
theorem beq_toNumber_toPrimitive {v : Value} (notDate : ∀ t, v ≠ date t) (n : Binary64) :
    v.toPrimitive.toNumber.beq n = v.toNumber.beq n := by
  have noNumber (plain : v.isCompound) (notArray : ∀ items, v ≠ array items) :
      v.toPrimitive.toNumber.beq n = Binary64.nan.beq n := by
    rw [toPrimitive, if_pos plain, toNumber, Binary64.beq,
      isNaN_ofText_text plain notDate notArray]
    rfl
  cases v with
  | date t => exact absurd rfl (notDate t)
  | object fields => exact noNumber rfl fun _ same => by cases same
  | url u => exact noNumber rfl fun _ same => by cases same
  | builtin b => exact noNumber rfl fun _ same => by cases same
  | _ => rfl

/-! ## Booleans and their numbers -/

/-- A date that is so many milliseconds after the start of 1970. -/
def IsDateAt (v : Value) (millis : ℕ) : Prop :=
  ∃ t, v = date t ∧ t.millis = millis

theorem looseEq_date_bool (t : Calendar.Instant) (b : Bool) :
    (date t).looseEq (bool b) ↔ t.millis = b.toNat := by
  have small : (b.toNat : ℤ).natAbs < 2 ^ 53 := by
    cases b <;> decide
  have converted : (date t).toNumber = Binary64.ofInt t.millis := rfl
  rw [looseEq_bool, converted, ← Binary64.ofInt_natCast, ← Binary64.beq_ofInt_iff small]
  rfl

theorem looseEq_date_number (t : Calendar.Instant) (n : Binary64) :
    (date t).looseEq (number n) = false := by
  rw [looseEq_number, toPrimitive_date, toNumber, t.ofText_text]
  rfl

/-- Loose equality with a boolean is loose equality with its number, in either order, exactly for
the values that are no date as many milliseconds after the start of 1970.  Such a date equals the
boolean and not the number. -/
theorem looseEq_bool_iff (v : Value) (b : Bool) :
    (v.looseEq (bool b) = v.looseEq (nat b.toNat) ↔ ¬ v.IsDateAt b.toNat) ∧
      ((bool b).looseEq v = (nat b.toNat).looseEq v ↔ ¬ v.IsDateAt b.toNat) ∧
      (v.IsDateAt b.toNat → v.looseEq (bool b) = true ∧ (bool b).looseEq v = true) := by
  have same : v.looseEq (bool b) = v.looseEq (nat b.toNat) ↔ ¬ v.IsDateAt b.toNat := by
    by_cases isDate : ∃ t, v = date t
    · rcases isDate with ⟨t, rfl⟩
      have only : (date t).IsDateAt b.toNat ↔ t.millis = b.toNat :=
        ⟨fun ⟨_, same, at_⟩ => by cases same; exact at_, fun at_ => ⟨t, rfl, at_⟩⟩
      rw [nat, looseEq_date_number, only, ← looseEq_date_bool, Bool.not_eq_true]
    · have notDate : ∀ t, v ≠ date t := fun t same => isDate ⟨t, same⟩
      refine iff_of_true ?_ fun ⟨t, same, _⟩ => notDate t same
      rw [nat, looseEq_bool, looseEq_number, beq_toNumber_toPrimitive notDate]
  have exception : v.IsDateAt b.toNat → v.looseEq (bool b) = true := by
    rintro ⟨t, rfl, millis⟩
    exact (looseEq_date_bool t b).mpr millis
  rw [← looseEq_comm_of_primitive (a := v) (b := bool b) rfl,
    ← looseEq_comm_of_primitive (a := v) (b := nat b.toNat) rfl]
  exact ⟨same, same, fun isDate => ⟨exception isDate, exception isDate⟩⟩

/-- The start of 1970 equals `false` and not zero. -/
theorem looseEq_start_of_1970 :
    Calendar.Instant.ofMillis? 0 = some ⟨0, 0⟩ ∧
      (date ⟨0, 0⟩).looseEq (bool false) = true ∧ (bool false).looseEq (date ⟨0, 0⟩) = true ∧
      (date ⟨0, 0⟩).looseEq (nat 0) = false ∧ (nat 0).looseEq (date ⟨0, 0⟩) = false := by
  have equal : (date ⟨0, 0⟩).looseEq (bool false) = true := (looseEq_date_bool ⟨0, 0⟩ false).mpr rfl
  have different : (date ⟨0, 0⟩).looseEq (nat 0) = false := looseEq_date_number ⟨0, 0⟩ _
  refine ⟨by decide, equal, ?_, different, ?_⟩
  · rw [← looseEq_comm_of_primitive rfl]
    exact equal
  · rw [← looseEq_comm_of_primitive rfl]
    exact different

end Value

end Stencil
