import Mathlib.Data.List.Induction
import Stencil.Number.Prefix
import Stencil.Proofs.Value.NumericText

/-!
# Integers at the front of a text

Behind white space and a sign, the longest run of digits of a base is added up in double precision.
The radix chooses the base: zero stands for sixteen behind `0x` and for ten otherwise, and sixteen
skips that mark.
-/

namespace Stencil.Number

open Text

/-! ## The grammar -/

/-- A text behind white space and a sign.  A sign in front is always taken. -/
inductive Unsigned : List Char → List Char → List Char → Prop where
  | behind {space sign unsigned : List Char} :
      Blank space →
      Stops isSpace (sign ++ unsigned) →
      sign ∈ signs →
      (sign = [] → Stops (· ∈ ['+', '-']) unsigned) →
      Unsigned (space ++ (sign ++ unsigned)) sign unsigned

/-- A text that begins with the mark of hexadecimal digits. -/
def Marked (unsigned : List Char) : Prop :=
  ∃ mark ∈ ['x', 'X'], ∃ body, unsigned = '0' :: mark :: body

/-- The base that a radix chooses in front of a text, and the text that is read in it.  No other
radix chooses a base. -/
inductive ChoosesBase : ℕ → List Char → ℕ → List Char → Prop where
  | marked {radix : ℕ} {mark : Char} {body : List Char} :
      radix ∈ [0, 16] → mark ∈ ['x', 'X'] → ChoosesBase radix ('0' :: mark :: body) 16 body
  | decimal {body : List Char} : ¬ Marked body → ChoosesBase 0 body 10 body
  | hexadecimal {body : List Char} : ¬ Marked body → ChoosesBase 16 body 16 body
  | given {radix : ℕ} {body : List Char} :
      2 ≤ radix → radix ≤ 36 → radix ≠ 16 → ChoosesBase radix body radix body

/-- The number that the digits of a base add up to, one after the other in double precision. -/
inductive AddsUp (base : ℕ) : List Char → Binary64 → Prop where
  | nil : AddsUp base [] .zero
  | snoc {digits : List Char} {c : Char} {n : Binary64} {d : ℕ} :
      AddsUp base digits n →
      digitOf? base c = some d →
      AddsUp base (digits ++ [c]) ((n.mul (.ofNat base)).add (.ofNat d))

/-- The integer at the front of a text.  Without a base or without a digit there is none. -/
inductive ReadsInteger (radix : ℕ) (text : List Char) : Binary64 → Prop where
  | digits {sign unsigned digits rest : List Char} {base : ℕ} {n : Binary64} :
      Unsigned text sign unsigned →
      ChoosesBase radix unsigned base (digits ++ rest) →
      digits ≠ [] →
      Stops (isDigitOf base) rest →
      AddsUp base digits n →
      ReadsInteger radix text (if sign = ['-'] then n.neg else n)
  | noDigit {sign unsigned body : List Char} {base : ℕ} :
      Unsigned text sign unsigned →
      ChoosesBase radix unsigned base body →
      Stops (isDigitOf base) body →
      ReadsInteger radix text .nan
  | noBase : (∀ unsigned base body, ¬ ChoosesBase radix unsigned base body) →
      ReadsInteger radix text .nan

variable {text sign unsigned body digits : List Char} {radix base : ℕ} {n : Binary64}

/-! ## Signs -/

theorem Unsigned.readSign_eq (split : Unsigned text sign unsigned) :
    readSign (trimStart text) = (decide (sign = ['-']), unsigned) := by
  rcases split with ⟨blank, stops, isSign, noSign⟩
  rw [trimStart_append blank stops]
  simp only [signs, List.mem_cons, List.not_mem_nil, or_false] at isSign
  rcases isSign with rfl | rfl | rfl
  · have plain := noSign rfl
    rw [List.nil_append]
    unfold readSign
    split
    · cases plain '-' rfl
    · cases plain '+' rfl
    · rfl
  · rfl
  · rfl

theorem stops_dropWhile (accepts : Char → Bool) (s : List Char) :
    Stops accepts (s.dropWhile accepts) := by
  intro c mem
  have first := List.head?_dropWhile_not accepts s
  rw [Option.mem_def.mp mem] at first
  exact first

theorem exists_unsigned (text : List Char) :
    ∃ sign, Unsigned text sign (readSign (trimStart text)).2 := by
  have space := trimStart_append_leading text
  have blank := blank_takeWhile text
  have stops : Stops isSpace (trimStart text) := stops_dropWhile isSpace text
  generalize text.takeWhile isSpace = before at space blank
  generalize trimStart text = behind at space stops
  rw [← space]
  unfold readSign
  split
  · exact ⟨['-'], @Unsigned.behind before ['-'] _ blank stops (by decide) (absurd · (by decide))⟩
  · exact ⟨['+'], @Unsigned.behind before ['+'] _ blank stops (by decide) (absurd · (by decide))⟩
  · rename_i noMinus noPlus
    refine ⟨[], @Unsigned.behind before [] _ blank stops (by decide) fun _ => ?_⟩
    cases behind with
    | nil => exact stops_nil
    | cons c rest =>
        refine stops_cons (decide_eq_false ?_) rest
        simp only [List.mem_cons, List.not_mem_nil, or_false, not_or]
        exact ⟨fun plus => noPlus rest (plus ▸ rfl), fun minus => noMinus rest (minus ▸ rfl)⟩

/-! ## Bases -/

theorem afterHexMark?_eq_some_iff :
    afterHexMark? unsigned = some body ↔ ∃ mark ∈ ['x', 'X'], unsigned = '0' :: mark :: body := by
  unfold afterHexMark?
  split <;> simp_all

theorem afterHexMark?_eq_none_iff : afterHexMark? unsigned = none ↔ ¬ Marked unsigned := by
  rw [Option.eq_none_iff_forall_ne_some, ← not_exists]
  simp only [afterHexMark?_eq_some_iff]
  exact not_congr ⟨fun ⟨body, mark, isMark, split⟩ => ⟨mark, isMark, body, split⟩,
    fun ⟨mark, isMark, body, split⟩ => ⟨body, mark, isMark, split⟩⟩

theorem exists_choosesBase (unsigned : List Char) (notOne : radix ≠ 1) (bounded : radix ≤ 36) :
    ∃ base body, ChoosesBase radix unsigned base body := by
  by_cases marked : Marked unsigned
  · rcases marked with ⟨mark, isMark, body, rfl⟩
    by_cases detects : radix ∈ [0, 16]
    · exact ⟨16, body, .marked detects isMark⟩
    · simp only [List.mem_cons, List.not_mem_nil, or_false, not_or] at detects
      exact ⟨radix, _, .given (by omega) bounded detects.2⟩
  · rcases eq_or_ne radix 0 with rfl | notZero
    · exact ⟨10, unsigned, .decimal marked⟩
    · rcases eq_or_ne radix 16 with rfl | other
      · exact ⟨16, unsigned, .hexadecimal marked⟩
      · exact ⟨radix, unsigned, .given (by omega) bounded other⟩

theorem ChoosesBase.chooseBase_eq (chooses : ChoosesBase radix unsigned base body) :
    chooseBase radix unsigned = (base, body) := by
  cases chooses with
  | marked detects isMark =>
      simp only [List.mem_cons, List.not_mem_nil, or_false] at detects
      rw [chooseBase, if_pos (by simpa using detects),
        afterHexMark?_eq_some_iff.mpr ⟨_, isMark, rfl⟩]
  | decimal unmarked =>
      rw [chooseBase, afterHexMark?_eq_none_iff.mpr unmarked]
      rfl
  | hexadecimal unmarked =>
      rw [chooseBase, afterHexMark?_eq_none_iff.mpr unmarked]
      rfl
  | given low high other =>
      rw [chooseBase, if_neg]
      simp only [Bool.or_eq_true, decide_eq_true_eq]
      omega

theorem ChoosesBase.bounds (chooses : ChoosesBase radix unsigned base body) :
    2 ≤ base ∧ base ≤ 36 := by
  cases chooses <;> omega

theorem ChoosesBase.radix_bounds (chooses : ChoosesBase radix unsigned base body) :
    radix ≠ 1 ∧ radix ≤ 36 := by
  cases chooses with
  | marked detects _ =>
      simp only [List.mem_cons, List.not_mem_nil, or_false] at detects
      omega
  | decimal _ => exact ⟨by decide, by decide⟩
  | hexadecimal _ => exact ⟨by decide, by decide⟩
  | given low high _ => exact ⟨by omega, high⟩

/-! ## Digits -/

theorem AddsUp.sumDigits_eq (adds : AddsUp base digits n) : sumDigits base digits = n := by
  induction adds with
  | nil => rfl
  | snoc _ isDigit ih =>
      rw [digitOf?, Option.filter_eq_some_iff] at isDigit
      rw [sumDigits, List.foldl_append, ← sumDigits, ih, List.foldl_cons, List.foldl_nil, isDigit.1,
        Option.getD_some]

theorem AddsUp.all_isDigitOf (adds : AddsUp base digits n) :
    ∀ c ∈ digits, isDigitOf base c = true := by
  induction adds with
  | nil => exact nofun
  | snoc _ isDigit ih =>
      intro c mem
      rcases List.mem_append.mp mem with mem | mem
      · exact ih c mem
      · rw [List.mem_singleton.mp mem, isDigitOf, isDigit]
        rfl

theorem exists_addsUp (all : ∀ c ∈ digits, isDigitOf base c = true) :
    ∃ n, AddsUp base digits n := by
  induction digits using List.reverseRecOn with
  | nil => exact ⟨_, .nil⟩
  | append_singleton digits c ih =>
      rcases ih fun d mem => all d (List.mem_append_left _ mem) with ⟨n, adds⟩
      rcases Option.isSome_iff_exists.mp (all c (by simp)) with ⟨d, isDigit⟩
      exact ⟨_, .snoc adds isDigit⟩

/-! ## The reader -/

variable {s : String}

theorem readInteger_of_choosesBase (split : Unsigned s.toList sign unsigned)
    (chooses : ChoosesBase radix unsigned base body) :
    readInteger s radix =
      if (body.takeWhile (isDigitOf base)).isEmpty then .nan
      else if sign = ['-'] then (sumDigits base (body.takeWhile (isDigitOf base))).neg
      else sumDigits base (body.takeWhile (isDigitOf base)) := by
  have bounds : ¬ (base < 2 || 36 < base) = true := by
    have := chooses.bounds
    simp only [Bool.or_eq_true, decide_eq_true_eq]
    omega
  rw [readInteger, split.readSign_eq]
  simp only [chooses.chooseBase_eq, if_neg bounds, decide_eq_true_eq]

/-- The reader finds the integer at the front of a text. -/
theorem readInteger_eq_of_reads (reads : ReadsInteger radix s.toList n) :
    readInteger s radix = n := by
  cases reads with
  | digits split chooses nonempty stops adds =>
      rw [readInteger_of_choosesBase split chooses,
        takeWhile_append_of_stops adds.all_isDigitOf stops, adds.sumDigits_eq,
        if_neg (mt List.isEmpty_iff.mp nonempty)]
  | noDigit split chooses stops =>
      rw [readInteger_of_choosesBase split chooses, stops.takeWhile_eq]
      rfl
  | noBase none =>
      have outside : radix = 1 ∨ 36 < radix := by
        by_contra inside
        rw [not_or, Nat.not_lt] at inside
        rcases exists_choosesBase [] inside.1 inside.2 with ⟨base, body, chooses⟩
        exact none _ _ _ chooses
      have same : chooseBase radix = fun unsigned => (radix, unsigned) := by
        funext unsigned
        rw [chooseBase, if_neg]
        simp only [Bool.or_eq_true, decide_eq_true_eq]
        omega
      rw [readInteger, same]
      refine if_pos ?_
      simp only [Bool.or_eq_true, decide_eq_true_eq]
      omega

/-- Every text has an integer at its front, or none. -/
theorem exists_readsInteger (radix : ℕ) (text : List Char) : ∃ n, ReadsInteger radix text n := by
  by_cases inside : radix ≠ 1 ∧ radix ≤ 36
  · rcases exists_unsigned text with ⟨sign, split⟩
    rcases exists_choosesBase (readSign (trimStart text)).2 inside.1 inside.2 with
      ⟨base, body, chooses⟩
    have stops := stops_dropWhile (isDigitOf base) body
    rcases eq_or_ne (body.takeWhile (isDigitOf base)) [] with none | nonempty
    · have all := List.takeWhile_append_dropWhile (p := isDigitOf base) (l := body)
      rw [none, List.nil_append] at all
      rw [all] at stops
      exact ⟨_, .noDigit split chooses stops⟩
    · have all : ∀ c ∈ body.takeWhile (isDigitOf base), isDigitOf base c = true :=
        fun c mem => List.mem_takeWhile_imp mem
      rcases exists_addsUp all with ⟨n, adds⟩
      rw [← List.takeWhile_append_dropWhile (p := isDigitOf base) (l := body)] at chooses
      exact ⟨_, .digits split chooses nonempty stops adds⟩
  · exact ⟨_, .noBase fun _ _ _ chooses => inside chooses.radix_bounds⟩

/-- The reader finds the integer at the front of a text, and nothing else. -/
theorem readInteger_eq_iff : readInteger s radix = n ↔ ReadsInteger radix s.toList n := by
  refine ⟨fun read => ?_, readInteger_eq_of_reads⟩
  rcases exists_readsInteger radix s.toList with ⟨m, reads⟩
  rw [← read, readInteger_eq_of_reads reads]
  exact reads

/-! ## Without a radix -/

/-- A text with the mark of hexadecimal digits behind white space and a sign. -/
def HexMarked (text sign : List Char) : Prop :=
  ∃ unsigned, Unsigned text sign unsigned ∧ Marked unsigned

/-- Without a mark, radix zero stands for ten. -/
theorem readInteger_zero_of_not_hexMarked (unmarked : ∀ sign, ¬ HexMarked s.toList sign) :
    readInteger s 0 = readInteger s 10 := by
  rcases exists_unsigned s.toList with ⟨sign, split⟩
  have plain : ¬ Marked (readSign (trimStart s.toList)).2 :=
    fun marked => unmarked sign ⟨_, split, marked⟩
  rw [readInteger_of_choosesBase split (.decimal plain),
    readInteger_of_choosesBase split (.given (by decide) (by decide) (by decide))]

/-- In base ten, the zero of a mark is all that is read. -/
theorem readInteger_ten_of_hexMarked (marked : HexMarked s.toList sign) :
    readInteger s 10 = .signedZero (decide (sign = ['-'])) := by
  rcases marked with ⟨_, split, mark, isMark, body, rfl⟩
  have digits : ('0' :: mark :: body).takeWhile (isDigitOf 10) = ['0'] := by
    simp only [List.mem_cons, List.not_mem_nil, or_false] at isMark
    rcases isMark with rfl | rfl <;> rfl
  have sum : sumDigits 10 ['0'] = .zero := by decide
  rw [readInteger_of_choosesBase split (.given (by decide) (by decide) (by decide)), digits, sum]
  by_cases minus : sign = ['-'] <;> simp [minus] <;> rfl

/-- Radix ten reads the same as radix zero exactly if a mark stands in front of a zero. -/
theorem readInteger_ten_eq_zero_iff :
    readInteger s 10 = readInteger s 0 ↔
      ∀ sign, HexMarked s.toList sign → readInteger s 0 = .signedZero (decide (sign = ['-'])) := by
  constructor
  · intro same sign marked
    rw [← same, readInteger_ten_of_hexMarked marked]
  · intro zero
    by_cases marked : ∃ sign, HexMarked s.toList sign
    · rcases marked with ⟨sign, marked⟩
      rw [zero sign marked, readInteger_ten_of_hexMarked marked]
    · exact (readInteger_zero_of_not_hexMarked (not_exists.mp marked)).symm

end Stencil.Number
