import Mathlib.Data.List.Basic
import Mathlib.Order.Lattice
import Mathlib.Tactic.Use
import Stencil.Eval.Method

/-!
# Parts of strings and arrays

Arguments of any kind are turned into positions of the receiver, so that nothing beyond it is ever
looked at: a part is contiguous, and an element is there if its position is.  What one part leaves
out, the part on the other side of the same number holds.
-/

namespace Stencil

open Calendar (Instant)

variable {α : Type} {xs : List α} {start stop : ℕ}

/-! ## Parts -/

/-- The elements from a position up to another one, both of them in the list. -/
def IsPart (xs : List α) (start stop : ℕ) (part : List α) : Prop :=
  ∃ before after, xs = before ++ (part ++ after) ∧ before.length = start ∧
    before.length + part.length = stop

/-- Cutting off the back and then the front gives a part, which is empty if they overlap. -/
theorem isPart_drop_take (startInside : start ≤ xs.length) (stopInside : stop ≤ xs.length) :
    IsPart xs start (max start stop) ((xs.take stop).drop start) := by
  use xs.take start
  rcases le_total start stop with ordered | crossed
  · use xs.drop stop
    have rest : xs.drop start = (xs.take stop).drop start ++ xs.drop stop := by
      rw [← List.drop_append_of_le_length (by simp [ordered, startInside]), List.take_append_drop]
    rw [← rest, List.take_append_drop]
    simp [ordered, startInside, stopInside]
  · use xs.drop start
    rw [List.drop_eq_nil_of_le (by simp [crossed])]
    simp [crossed, startInside]

/-- A call answers with the elements of a list from a position up to another one; if the second
position is not behind the first one, with none. -/
def AnswersPart (answer : Option (Outcome Value)) (ofPart : List α → Value) (xs : List α)
    (start stop : ℕ) : Prop :=
  ∃ part, answer = some (.ok (ofPart part)) ∧ IsPart xs start (max start stop) part

/-! ## Elements -/

/-- What a call answers about an element: the element at a position of the list or, without a
position, something else. -/
inductive AnswersElement (answer : Option (Outcome Value)) (otherwise : Value)
    (ofElement : α → Value) (xs : List α) : Option ℕ → Prop where
  | inside {i : ℕ} (bound : i < xs.length) :
      answer = some (.ok (ofElement xs[i])) →
      AnswersElement answer otherwise ofElement xs (some i)
  | outside :
      answer = some (.ok otherwise) →
      AnswersElement answer otherwise ofElement xs none

theorem answersElement (xs : List α) (w : Whole) (otherwise : Value) (ofElement : α → Value) :
    AnswersElement (some (.ok ((((w.position? xs.length).bind (xs[·]?)).map ofElement).getD
      otherwise))) otherwise ofElement xs (w.position? xs.length) := by
  cases place : w.position? xs.length with
  | none => exact .outside rfl
  | some i =>
      have bound := Whole.position?_lt place
      apply AnswersElement.inside bound
      rw [Option.bind_some, List.getElem?_eq_getElem bound]
      rfl

namespace Whole

/-- An integer stands for an element if it counts from the front or from the end of the list and
does not reach beyond the list. -/
theorem position?_fromEnd (length : ℕ) (i : ℤ) :
    ((finite i).fromEnd length).position? length =
      if -(length : ℤ) ≤ i ∧ i < length then some (if i < 0 then length + i else i).toNat
      else none := by
  rw [fromEnd, position?]
  by_cases inside : -(length : ℤ) ≤ i ∧ i < length
  · rw [if_pos inside, if_pos]
    simp
    split <;> omega
  · rw [if_neg inside, if_neg]
    simp
    split <;> omega

theorem clamp_front (length : ℕ) : (finite 0).clamp length = 0 :=
  Nat.zero_min length

theorem clamp_all (length : ℕ) : (infinite false).clamp length = length :=
  rfl

theorem relative_front (length : ℕ) : (finite 0).relative length = 0 :=
  Nat.zero_min length

theorem relative_all (length : ℕ) : (infinite false).relative length = length :=
  rfl

end Whole

namespace Arguments

variable (x : Binary64) (rest : Arguments) (default : Whole)

theorem toWhole_zero : (Binary64.ofInt 0).toWhole = .finite 0 := by
  decide +kernel

theorem whole_front : whole (.int 0 :: rest) 0 default = .finite 0 :=
  toWhole_zero

theorem whole_number : whole (.number x :: rest) 0 default = x.toWhole :=
  rfl

theorem whole_second (v : Value) : whole (v :: .number x :: rest) 1 default = x.toWhole :=
  rfl

theorem whole_missing (v : Value) : whole [v] 1 default = default :=
  rfl

/-- An argument that is there counts as the number it converts to. -/
theorem whole_of_ne_undefined (args : Arguments) (i : ℕ) (present : args.value i ≠ .undefined)
    (default : Whole) : args.whole i default = (args.number i).toWhole := by
  rw [whole, number]
  split
  · contradiction
  · rfl

end Arguments

/-! ## Slices -/

/-- What strings and arrays answer alike: parts between positions of which negative ones count from
the end, and the element at such a position. -/
structure Slices (call : String → Arguments → Option (Outcome Value)) (xs : List α)
    (ofPart : List α → Value) (ofElement : α → Value) : Prop where
  /-- What stands on both sides of a number makes up the receiver. -/
  slice_append : ∀ k : Binary64, ∃ front back,
    call "slice" [.int 0, .number k] = some (.ok (ofPart front)) ∧
      call "slice" [.number k] = some (.ok (ofPart back)) ∧ front ++ back = xs
  slice_inside : ∀ args, AnswersPart (call "slice" args) ofPart xs
    ((args.whole 0 (.finite 0)).relative xs.length)
    ((args.whole 1 (.infinite false)).relative xs.length)
  at_inside : ∀ args, AnswersElement (call "at" args) .undefined ofElement xs
    (((args.whole 0 (.finite 0)).fromEnd xs.length).position? xs.length)
  /-- An integer stands for an element exactly if the receiver reaches that far. -/
  at_integer : ∀ (x : Binary64) (i : ℤ), x.toWhole = .finite i →
    AnswersElement (call "at" [.number x]) .undefined ofElement xs
      (if -(xs.length : ℤ) ≤ i ∧ i < xs.length then
        some (if i < 0 then xs.length + i else i).toNat
      else none)

theorem Slices.of_calls {call : String → Arguments → Option (Outcome Value)}
    {ofPart : List α → Value} {ofElement : α → Value}
    (slice_eq : ∀ args, call "slice" args = some (.ok (ofPart
      ((xs.take ((args.whole 1 (.infinite false)).relative xs.length)).drop
        ((args.whole 0 (.finite 0)).relative xs.length)))))
    (at_eq : ∀ args, call "at" args = some (.ok ((((((args.whole 0 (.finite 0)).fromEnd
      xs.length).position? xs.length).bind (xs[·]?)).map ofElement).getD .undefined))) :
    Slices call xs ofPart ofElement := by
  have at_inside : ∀ args, AnswersElement (call "at" args) .undefined ofElement xs
      (((args.whole 0 (.finite 0)).fromEnd xs.length).position? xs.length) := by
    intro args
    rw [at_eq]
    exact answersElement xs _ _ _
  constructor
  · intro k
    use xs.take (k.toWhole.relative xs.length), xs.drop (k.toWhole.relative xs.length)
    constructor
    · rw [slice_eq, Arguments.whole_front, Arguments.whole_second, Whole.relative_front,
        List.drop_zero]
    · constructor
      · rw [slice_eq, Arguments.whole_number, Arguments.whole_missing, Whole.relative_all,
          List.take_length]
      · exact List.take_append_drop _ xs
  · intro args
    exact ⟨_, slice_eq args, isPart_drop_take (Whole.relative_le _ _) (Whole.relative_le _ _)⟩
  · exact at_inside
  · intro x i spelled
    have answers := at_inside [.number x]
    rwa [Arguments.whole_number, spelled, Whole.position?_fromEnd] at answers

/-! ## Substrings -/

/-- What strings answer besides: parts between positions in either order, parts of a length, and
characters. -/
structure Substrings (call : String → Arguments → Option (Outcome Value)) (s : List Char) :
    Prop where
  substring_append : ∀ k : Binary64, ∃ front back,
    call "substring" [.int 0, .number k] = some (.ok (.chars front)) ∧
      call "substring" [.number k] = some (.ok (.chars back)) ∧ front ++ back = s
  /-- The order of two positions does not matter, whatever values they are given as; `undefined` is
  a missing position. -/
  substring_swap : ∀ a b : Value, (a = .undefined ↔ b = .undefined) →
    call "substring" [a, b] = call "substring" [b, a]
  substring_inside : ∀ args, AnswersPart (call "substring" args) .chars s
    (min ((args.whole 0 (.finite 0)).clamp s.length)
      ((args.whole 1 (.infinite false)).clamp s.length))
    (max ((args.whole 0 (.finite 0)).clamp s.length)
      ((args.whole 1 (.infinite false)).clamp s.length))
  substr_inside : ∀ args, AnswersPart (call "substr" args) .chars s
    ((args.whole 0 (.finite 0)).relative s.length)
    ((args.whole 0 (.finite 0)).relative s.length + (args.whole 1 (.infinite false)).clamp
      (s.length - (args.whole 0 (.finite 0)).relative s.length))
  charAt_inside : ∀ args, AnswersElement (call "charAt" args) (.string "") .char s
    ((args.whole 0 (.finite 0)).position? s.length)
  charCodeAt_inside : ∀ args, AnswersElement (call "charCodeAt" args) (.number .nan)
    (fun c => .nat c.toNat) s ((args.whole 0 (.finite 0)).position? s.length)
  /-- The character at a position stands between it and the next one. -/
  charAt_eq_substring : ∀ (x y : Binary64) (i : ℕ), x.toWhole = .finite i →
    y.toWhole = .finite (i + 1) →
      call "charAt" [.number x] = call "substring" [.number x, .number y]

namespace StringMethod

variable (s : List Char)

theorem answersPart_between {s : List Char} (startInside : start ≤ s.length)
    (stopInside : stop ≤ s.length) :
    AnswersPart (some (.ok (.chars (between s start stop)))) .chars s start stop :=
  ⟨_, rfl, isPart_drop_take startInside stopInside⟩

theorem substring_front (k : Binary64) :
    substring s [.int 0, .number k] = s.take (k.toWhole.clamp s.length) := by
  rw [substring, Arguments.whole_front, Arguments.whole_second, Whole.clamp_front,
    Nat.zero_min, Nat.zero_max, between, List.drop_zero]

theorem substring_back (k : Binary64) :
    substring s [.number k] = s.drop (k.toWhole.clamp s.length) := by
  have inside := Whole.clamp_le s.length k.toWhole
  rw [substring, Arguments.whole_number, Arguments.whole_missing, Whole.clamp_all,
    min_eq_left inside, max_eq_right inside, between, List.take_length]

theorem substring_eq {a b : Value} (present : a ≠ .undefined) (presentAlso : b ≠ .undefined) :
    substring s [a, b] = between s
      (min (a.toNumber.toWhole.clamp s.length) (b.toNumber.toWhole.clamp s.length))
      (max (a.toNumber.toWhole.clamp s.length) (b.toNumber.toWhole.clamp s.length)) := by
  have first : Arguments.whole [a, b] 0 (.finite 0) = a.toNumber.toWhole :=
    Arguments.whole_of_ne_undefined [a, b] 0 present _
  have second : Arguments.whole [a, b] 1 (.infinite false) = b.toNumber.toWhole :=
    Arguments.whole_of_ne_undefined [a, b] 1 presentAlso _
  rw [substring, first, second]

theorem substring_swapped {a b : Value} (alike : a = .undefined ↔ b = .undefined) :
    substring s [a, b] = substring s [b, a] := by
  by_cases missing : a = .undefined
  · rw [missing, alike.mp missing]
  · have present := mt alike.mpr missing
    rw [substring_eq s missing present, substring_eq s present missing, min_comm, max_comm]

/-- What stands between a position and the next one is the element at the position, if there is
one. -/
theorem between_next (i : ℕ) :
    between s (min (min i s.length) (min (i + 1) s.length))
      (max (min i s.length) (min (i + 1) s.length)) = s[i]?.toList := by
  have ordered : min i s.length ≤ min (i + 1) s.length := by omega
  rw [min_eq_left ordered, max_eq_right ordered, between]
  rcases lt_or_ge i s.length with inside | behind
  · rw [min_eq_left inside.le, min_eq_left (show i + 1 ≤ s.length from inside), List.drop_take,
      Nat.add_sub_cancel_left, List.take_one, List.head?_drop]
  · rw [min_eq_right behind, List.getElem?_eq_none behind]
    simp

theorem chars_toList (c : Option Char) :
    Value.chars c.toList = (c.map Value.char).getD (.string "") := by
  cases c <;> rfl

/-- The character at a position stands between it and the next one. -/
theorem charAt?_eq_substring {x y : Binary64} {i : ℕ} (here : x.toWhole = .finite i)
    (next : y.toWhole = .finite (i + 1)) :
    (charAt? s [.number x]).toList = substring s [.number x, .number y] := by
  have position : (Whole.finite i).position? s.length = if i < s.length then some i else none := by
    simp [Whole.position?]
  have found : charAt? s [.number x] = s[i]? := by
    rw [charAt?, Arguments.whole_number, here, position]
    split
    · rfl
    · rename_i outside
      rw [List.getElem?_eq_none (Nat.le_of_not_lt outside)]
      rfl
  rw [found, substring_eq s (a := .number x) (b := .number y) nofun nofun, Value.toNumber,
    Value.toNumber, here, next]
  exact (between_next s i).symm

end StringMethod

open StringMethod

/-- Slicing partitions strings and arrays and stays inside them. -/
theorem Value.method_slices (now : Instant) :
    (∀ s : String,
      Slices (fun name args => (string s).method? now args name) s.toList chars char ∧
        Substrings (fun name args => (string s).method? now args name) s.toList) ∧
      ∀ items : List Value,
        Slices (fun name args => (array items).method? now args name) items array id := by
  constructor
  · intro s
    constructor
    · exact .of_calls (fun _ => rfl) (fun _ => rfl)
    · constructor
      · intro k
        use substring s.toList [.int 0, .number k], substring s.toList [.number k]
        refine ⟨rfl, rfl, ?_⟩
        rw [substring_front, substring_back, List.take_append_drop]
      · intro a b alike
        exact congrArg (fun part => some (Except.ok (Value.chars part)))
          (substring_swapped s.toList alike)
      · intro args
        exact answersPart_between ((min_le_left _ _).trans (Whole.clamp_le _ _))
          (max_le (Whole.clamp_le _ _) (Whole.clamp_le _ _))
      · intro args
        have inside := Whole.relative_le s.toList.length (args.whole 0 (.finite 0))
        apply answersPart_between inside
        have counted := Whole.clamp_le
          (s.toList.length - (args.whole 0 (.finite 0)).relative s.toList.length)
          (args.whole 1 (.infinite false))
        omega
      · intro args
        exact answersElement s.toList _ _ _
      · intro args
        exact answersElement s.toList _ _ _
      · intro x y i here next
        have same := charAt?_eq_substring s.toList here next
        change some (Except.ok _) = some (Except.ok (Value.chars _))
        rw [← same, chars_toList]
  · intro items
    apply Slices.of_calls
    · intro args
      rfl
    · intro args
      rw [Option.map_id]
      rfl

end Stencil
