import Stencil.Eval.Method
import Stencil.Proofs.Number.Rounding

/-!
# Lengthened strings

Copies of a string and fillers in front of it or behind it are exact, or they are refused.  No
answer is longer than a limit, or else it is the string as it was.
-/

namespace Stencil

open Calendar (Instant)

/-- A number without its fraction.  What is not a number counts as zero. -/
def Binary64.truncation (x : Binary64) : Whole :=
  if x.isNaN then .finite 0
  else if x.isInfinite then .infinite x.negative
  else .finite (if x.negative then -⌊x.magnitude⌋₊ else ⌊x.magnitude⌋₊)

theorem Binary64.toWhole_eq_truncation (x : Binary64) : x.toWhole = x.truncation := by
  rw [toWhole, truncation, toInt_eq, ← ratio_eq_magnitude, Nat.floor_div_eq_div]

/-- A whole number is at most a limit. -/
def Whole.AtMost (limit : ℕ) : Whole → Prop
  | finite n => n ≤ limit
  | infinite negative => negative = true

namespace StringMethod

variable {s filler : List Char}

/-! ## Copies -/

theorem copies_eq (s : List Char) (n : ℕ) : copies s n = (List.replicate n s).flatten := by
  induction n with
  | zero => rfl
  | succ n ih => rw [copies, ih, List.replicate_succ, List.flatten_cons]

theorem length_copies (s : List Char) (n : ℕ) : (copies s n).length = n * s.length := by
  induction n with
  | zero => rw [copies, List.length_nil, Nat.zero_mul]
  | succ n ih => rw [copies, List.length_append, ih, Nat.succ_mul, Nat.add_comm]

theorem copies_nil (n : ℕ) : copies [] n = [] :=
  List.eq_nil_of_length_eq_zero (length_copies [] n)

/-- Inside the copies, positions count around the text. -/
theorem getElem?_copies {n i : ℕ} (inside : i < n * s.length) :
    (copies s n)[i]? = s[i % s.length]? := by
  induction n generalizing i with
  | zero =>
      rw [Nat.zero_mul] at inside
      exact absurd inside (Nat.not_lt_zero i)
  | succ n ih =>
      rw [copies]
      rcases lt_or_ge i s.length with first | further
      · rw [List.getElem?_append_left first, Nat.mod_eq_of_lt first]
      · rw [List.getElem?_append_right further, Nat.mod_eq_sub_mod further]
        apply ih
        rw [Nat.succ_mul] at inside
        omega

/-! ## Fillings -/

/-- There are enough copies to cut the filling off. -/
theorem lt_length_copies (nonempty : filler ≠ []) (count : ℕ) :
    count < (count / filler.length + 1) * filler.length := by
  rw [Nat.mul_comm]
  exact Nat.lt_mul_div_succ count (List.length_pos_iff.mpr nonempty)

theorem length_filling (nonempty : filler ≠ []) (count : ℕ) :
    (filling filler count).length = count := by
  rw [filling, List.length_take, length_copies]
  exact Nat.min_eq_left (lt_length_copies nonempty count).le

theorem getElem?_filling (nonempty : filler ≠ []) {count i : ℕ} (inside : i < count) :
    (filling filler count)[i]? = filler[i % filler.length]? := by
  rw [filling, List.getElem?_take_of_lt inside]
  exact getElem?_copies (inside.trans (lt_length_copies nonempty count))

/-! ## Repetition -/

/-- What repeating a text so often answers. -/
structure Repeats (answer : Option (Outcome Value)) (s : List Char) (n : Whole) (limit : ℕ) :
    Prop where
  fails_iff : (∃ fault, answer = some (.error fault)) ↔
    (∃ negative, n = .infinite negative) ∨
      ∃ k : ℤ, n = .finite k ∧ (k < 0 ∨ 0 < s.length ∧ limit < k * s.length)
  copies : ∀ k : ℕ, n = .finite k → s.length = 0 ∨ k * s.length ≤ limit →
    answer = some (.ok (.chars (List.replicate k s).flatten))
  bounded : ∀ v, answer = some (.ok v) →
    ∃ out, v = .chars out ∧ out.length ≤ max s.length limit

namespace Repeats

variable {n : Whole} {limit : ℕ}

theorem not_refused {k : ℕ} (fits : s.length = 0 ∨ k * s.length ≤ limit) :
    ¬ ((∃ negative, Whole.finite k = .infinite negative) ∨
      ∃ j : ℤ, Whole.finite k = .finite j ∧ (j < 0 ∨ 0 < s.length ∧ limit < j * s.length)) := by
  rintro (⟨negative, spelled⟩ | ⟨j, spelled, below | ⟨nonempty, tooLong⟩⟩)
  · cases spelled
  · cases spelled
    exact absurd below (Int.natCast_nonneg k).not_gt
  · cases spelled
    rcases fits with empty | short
    · exact absurd empty nonempty.ne'
    · exact absurd (by exact_mod_cast tooLong) short.not_gt

theorem refused {fault : EvalFault} (refusal : (∃ negative, n = .infinite negative) ∨
      ∃ k : ℤ, n = .finite k ∧ (k < 0 ∨ 0 < s.length ∧ limit < k * s.length)) :
    Repeats (some (.error fault)) s n limit := by
  constructor
  · exact iff_of_true ⟨fault, rfl⟩ refusal
  · intro k spelled fits
    rw [spelled] at refusal
    exact absurd refusal (not_refused fits)
  · intro v answered
    cases answered

theorem given {k : ℕ} {out : List Char} (built : out = StringMethod.copies s k)
    (fits : s.length = 0 ∨ k * s.length ≤ limit) :
    Repeats (some (.ok (.chars out))) s (.finite k) limit := by
  have size := length_copies s k
  constructor
  · exact iff_of_false nofun (not_refused fits)
  · intro j spelled _
    cases spelled
    rw [built, copies_eq]
  · intro v answered
    cases answered
    use out
    rw [built]
    rcases fits with empty | short
    · simp [size, empty]
    · exact ⟨rfl, le_max_of_le_right (size.trans_le short)⟩

end Repeats

/-- Repeating is refused for a bad count or a long result, and else it gives the copies. -/
theorem repeats_repeated (s : List Char) (args : Arguments) :
    Repeats (some ((repeated s args).map .chars)) s (args.whole 0 (.finite 0)) lengthLimit := by
  rw [repeated]
  cases args.whole 0 (.finite 0) with
  | infinite negative => exact .refused (.inl ⟨negative, rfl⟩)
  | finite n =>
      dsimp only
      split
      · rename_i below
        exact .refused (.inr ⟨n, rfl, .inl below⟩)
      · rename_i counted
        lift n to ℕ using Int.not_lt.mp counted with k
        rw [Int.toNat_natCast]
        split
        · rename_i empty
          rw [List.isEmpty_iff] at empty
          subst empty
          exact .given (copies_nil k).symm (.inl rfl)
        · rename_i nonempty
          rw [List.isEmpty_iff, ← ne_eq, ← List.length_pos_iff] at nonempty
          split
          · rename_i tooLong
            exact .refused (.inr ⟨k, rfl, .inr ⟨nonempty, by exact_mod_cast tooLong⟩⟩)
          · rename_i short
            exact .given rfl (.inr (Nat.le_of_not_lt short))

/-! ## Padding -/

/-- What making a text so long answers, with a filler that is attached to one of its ends. -/
structure Pads (answer : Option (Outcome Value)) (s filler : List Char) (n : Whole) (limit : ℕ)
    (attach : List Char → List Char) : Prop where
  unchanged : n.AtMost s.length ∨ filler = [] → answer = some (.ok (.chars s))
  fails_iff : (∃ fault, answer = some (.error fault)) ↔
    ¬ n.AtMost s.length ∧ filler ≠ [] ∧ ¬ n.AtMost limit
  /-- The filler is repeated from its front as long as the text is too short. -/
  padded : ∀ k : ℕ, n = .finite k → s.length < k → filler ≠ [] → k ≤ limit →
    ∃ pad, answer = some (.ok (.chars (attach pad))) ∧ (attach pad).length = k ∧
      pad.length = k - s.length ∧ ∀ i < k - s.length, pad[i]? = filler[i % filler.length]?
  bounded : ∀ v, answer = some (.ok v) →
    ∃ out, v = .chars out ∧ out.length ≤ max s.length limit

namespace Pads

variable {n : Whole} {limit : ℕ} {attach : List Char → List Char}

theorem kept (enough : n.AtMost s.length ∨ filler = []) :
    Pads (some (.ok (.chars s))) s filler n limit attach := by
  constructor
  · intro _
    rfl
  · refine iff_of_false nofun ?_
    rintro ⟨short, nonempty, _⟩
    exact enough.elim short nonempty
  · intro k spelled short nonempty _
    rcases enough with enough | empty
    · rw [spelled] at enough
      exact absurd (Int.ofNat_le.mp enough) short.not_ge
    · exact absurd empty nonempty
  · intro v answered
    cases answered
    exact ⟨s, rfl, le_max_left _ _⟩

theorem refused {fault : EvalFault} (short : ¬ n.AtMost s.length) (nonempty : filler ≠ [])
    (tooLong : ¬ n.AtMost limit) : Pads (some (.error fault)) s filler n limit attach := by
  constructor
  · intro enough
    exact (enough.elim short nonempty).elim
  · exact iff_of_true ⟨fault, rfl⟩ ⟨short, nonempty, tooLong⟩
  · intro k spelled _ _ inside
    rw [spelled] at tooLong
    exact absurd (Int.ofNat_le.mpr inside) tooLong
  · intro v answered
    cases answered

theorem filled {k : ℕ} (length_attach : ∀ pad, (attach pad).length = pad.length + s.length)
    (short : s.length < k) (nonempty : filler ≠ []) (inside : k ≤ limit) :
    Pads (some (.ok (.chars (attach (filling filler (k - s.length)))))) s filler (.finite k) limit
      attach := by
  have size : (attach (filling filler (k - s.length))).length = k := by
    rw [length_attach, length_filling nonempty, Nat.sub_add_cancel short.le]
  constructor
  · rintro (enough | empty)
    · exact absurd (Int.ofNat_le.mp enough) short.not_ge
    · exact absurd empty nonempty
  · refine iff_of_false nofun ?_
    rintro ⟨_, _, tooLong⟩
    exact tooLong (Int.ofNat_le.mpr inside)
  · intro j spelled _ _ _
    cases spelled
    exact ⟨_, rfl, size, length_filling nonempty _, fun i => getElem?_filling nonempty⟩
  · intro v answered
    cases answered
    exact ⟨_, rfl, le_max_of_le_right (size.trans_le inside)⟩

end Pads

/-- Padding leaves a text that is long enough alone, refuses a long result, and else attaches a
filling. -/
theorem pads_padding (args : Arguments) {attach : List Char → List Char}
    (attach_nil : attach [] = s)
    (length_attach : ∀ pad, (attach pad).length = pad.length + s.length) :
    Pads (some ((padding s args).map fun pad => .chars (attach pad))) s
      (args.textOr 1 " ").toList (args.whole 0 (.finite 0)) lengthLimit attach := by
  rw [padding]
  generalize (args.textOr 1 " ").toList = filler
  cases args.whole 0 (.finite 0) with
  | infinite negative =>
      dsimp only
      split
      · rename_i enough
        rw [Bool.or_eq_true, List.isEmpty_iff] at enough
        rw [Except.map, attach_nil]
        exact .kept enough
      · rename_i short
        rw [Bool.or_eq_true, List.isEmpty_iff, not_or] at short
        exact .refused short.1 short.2 short.1
  | finite n =>
      dsimp only
      split
      · rename_i enough
        rw [Bool.or_eq_true, decide_eq_true_iff, List.isEmpty_iff] at enough
        rw [Except.map, attach_nil]
        exact .kept enough
      · rename_i short
        rw [Bool.or_eq_true, decide_eq_true_iff, List.isEmpty_iff, not_or, Int.not_le] at short
        split
        · rename_i tooLong
          exact .refused short.1.not_ge short.2 tooLong.not_ge
        · rename_i inside
          lift n to ℕ using (Int.natCast_nonneg _).trans short.1.le with k
          exact .filled length_attach (Int.ofNat_lt.mp short.1) short.2
            (Int.ofNat_le.mp (Int.not_lt.mp inside))

/-! ## Methods -/

/-- The arguments of a padding: a number and, if there is one, a filler. -/
def paddingArguments (x : Binary64) (filler : Option String) : Arguments :=
  .number x :: (filler.map Value.string).toList

theorem textOr_paddingArguments (x : Binary64) (filler : Option String) :
    (paddingArguments x filler).textOr 1 " " = filler.getD " " := by
  cases filler <;> rfl

end StringMethod

open StringMethod

/-- Lengthening a string is exact or it is refused.  Without a filler, strings are padded with
spaces. -/
theorem Value.method_lengthens (s : String) (x : Binary64) (filler : Option String)
    (now : Instant) :
    Repeats ((string s).method? now [.number x] "repeat") s.toList x.truncation (2 ^ 29 - 24) ∧
      Pads ((string s).method? now (paddingArguments x filler) "padStart") s.toList
        (filler.getD " ").toList x.truncation (2 ^ 29 - 24) (· ++ s.toList) ∧
      Pads ((string s).method? now (paddingArguments x filler) "padEnd") s.toList
        (filler.getD " ").toList x.truncation (2 ^ 29 - 24) (s.toList ++ ·) := by
  rw [← Binary64.toWhole_eq_truncation, ← textOr_paddingArguments x filler]
  constructor
  · exact repeats_repeated s.toList [.number x]
  · constructor
    · apply pads_padding (paddingArguments x filler)
      · exact List.nil_append s.toList
      · exact fun pad => List.length_append
    · apply pads_padding (paddingArguments x filler)
      · exact List.append_nil s.toList
      · intro pad
        rw [List.length_append, Nat.add_comm]

end Stencil
