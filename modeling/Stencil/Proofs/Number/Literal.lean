import Stencil.Number.Reading
import Stencil.Proofs.Text.Run

/-!
# The grammar of decimal literals

A decimal literal is a run of digits with an optional point and an optional exponent.  The reader
takes a literal off the front of a text exactly when there is one, and what follows matters only if
the literal could go on with it.
-/

namespace Stencil.Number

open Text

/-- A text of digits. -/
abbrev AllDigits (digits : List Char) : Prop :=
  ∀ c ∈ digits, isDigit c = true

/-- The written forms of the digits behind a point.  Without a point there are none. -/
inductive WritesFraction : List Char → List Char → Prop where
  | absent : WritesFraction [] []
  | point {digits : List Char} : AllDigits digits → WritesFraction ('.' :: digits) digits

/-- The written forms of an exponent: a mark, a sign that may be missing, and digits. -/
inductive WritesExponent : List Char → Int → Prop where
  | absent : WritesExponent [] 0
  | marked {mark : Char} {sign digits : List Char} :
      mark ∈ ['e', 'E'] →
      sign ∈ [[], ['+'], ['-']] →
      digits ≠ [] →
      AllDigits digits →
      WritesExponent (mark :: (sign ++ digits))
        (if sign = ['-'] then -(ofDigits 10 digits : Int) else ofDigits 10 digits)

/-- The written forms of a decimal literal. -/
inductive WritesLiteral : List Char → Literal → Prop where
  | parts {whole point fraction marked : List Char} {exponent : Int} :
      AllDigits whole →
      WritesFraction point fraction →
      WritesExponent marked exponent →
      whole ++ fraction ≠ [] →
      WritesLiteral (whole ++ (point ++ marked))
        ⟨ofDigits 10 (whole ++ fraction), exponent - fraction.length⟩

/-- Characters with which a literal could go on. -/
def goesOn (c : Char) : Bool :=
  isDigit c || c == '.' || c == 'e' || c == 'E'

variable {written rest s : List Char} {l : Literal}

theorem stops_isDigit_of_goesOn (stops : Stops goesOn rest) : Stops isDigit rest := by
  intro c mem
  have refused := stops c mem
  simp only [goesOn, Bool.or_eq_false_iff] at refused
  exact refused.1.1.1

/-! ## What is read was written -/

theorem exists_of_readFraction (s : List Char) :
    ∃ point, WritesFraction point (readFraction s).1 ∧ s = point ++ (readFraction s).2 := by
  unfold readFraction
  split
  · rename_i rest
    exact ⟨_, .point fun c mem => List.mem_takeWhile_imp mem, by simp⟩
  · exact ⟨[], .absent, rfl⟩

theorem exists_of_readSign (s : List Char) :
    ∃ sign ∈ [[], ['+'], ['-']], s = sign ++ (readSign s).2 ∧
      ((readSign s).1 = true ↔ sign = ['-']) := by
  unfold readSign
  split
  · exact ⟨['-'], by simp, by simp⟩
  · exact ⟨['+'], by simp, by simp⟩
  · exact ⟨[], by simp, by simp⟩

theorem exists_of_readExponent (s : List Char) :
    ∃ marked, WritesExponent marked (readExponent s).1 ∧ s = marked ++ (readExponent s).2 := by
  have nothing : ∃ marked, WritesExponent marked 0 ∧ s = marked ++ s := ⟨[], .absent, rfl⟩
  unfold readExponent
  split
  · rename_i mark more
    split
    · rename_i isMark
      rcases exists_of_readSign more with ⟨sign, isSign, split, negative⟩
      dsimp only
      split
      · exact nothing
      · rename_i nonempty
        rw [List.isEmpty_iff] at nonempty
        have isMark : mark ∈ ['e', 'E'] := by simpa using isMark
        have written : WritesExponent _ _ :=
          .marked isMark isSign nonempty fun c mem => List.mem_takeWhile_imp mem
        simp only [← negative] at written
        refine ⟨_, written, ?_⟩
        rw [List.cons_append, List.append_assoc, List.takeWhile_append_dropWhile, ← split]
    · exact nothing
  · exact nothing

theorem exists_of_readLiteral (read : readLiteral s = some (l, rest)) :
    ∃ written, WritesLiteral written l ∧ s = written ++ rest := by
  unfold readLiteral at read
  dsimp only at read
  split at read
  · cases read
  · rename_i nonempty
    cases read
    rcases exists_of_readFraction (s.dropWhile isDigit) with ⟨point, hasFraction, split⟩
    rcases exists_of_readExponent (readFraction (s.dropWhile isDigit)).2 with
      ⟨marked, hasExponent, splitExponent⟩
    refine ⟨_, .parts (fun c mem => List.mem_takeWhile_imp mem) hasFraction hasExponent ?_, ?_⟩
    · simpa [List.append_eq_nil_iff] using nonempty
    · rw [List.append_assoc, List.append_assoc, ← splitExponent, ← split,
        List.takeWhile_append_dropWhile]

/-! ## What is written is read -/

theorem readFraction_append {point fraction : List Char}
    (hasFraction : WritesFraction point fraction)
    (stops : Stops isDigit rest) (noPoint : ∀ c ∈ rest.head?, c ≠ '.') :
    readFraction (point ++ rest) = (fraction, rest) := by
  cases hasFraction with
  | absent =>
      rw [List.nil_append]
      unfold readFraction
      split
      · exact absurd rfl (noPoint '.' rfl)
      · rfl
  | point digits =>
      rw [List.cons_append, readFraction, takeWhile_append_of_stops digits stops,
        dropWhile_append_of_stops digits stops]

theorem readSign_append {sign digits : List Char} (isSign : sign ∈ [[], ['+'], ['-']])
    (nonempty : digits ≠ []) (all : AllDigits digits) :
    readSign (sign ++ (digits ++ rest)) = (decide (sign = ['-']), digits ++ rest) := by
  rcases List.exists_cons_of_ne_nil nonempty with ⟨c, more, rfl⟩
  have digit := all c List.mem_cons_self
  simp only [List.mem_cons, List.not_mem_nil, or_false] at isSign
  rcases isSign with rfl | rfl | rfl
  · rw [List.nil_append, List.cons_append]
    unfold readSign
    split
    · exact absurd digit (by simp_all [isDigit])
    · exact absurd digit (by simp_all [isDigit])
    · rfl
  · rfl
  · rfl

theorem readExponent_append {marked : List Char} {exponent : Int}
    (hasExponent : WritesExponent marked exponent) (stops : Stops goesOn rest) :
    readExponent (marked ++ rest) = (exponent, rest) := by
  cases hasExponent with
  | absent =>
      cases rest with
      | nil => rfl
      | cons c more =>
          have refused := stops c rfl
          simp only [goesOn, Bool.or_eq_false_iff, beq_eq_false_iff_ne] at refused
          simp [readExponent, refused]
  | @marked mark sign digits isMark isSign nonempty all =>
      have noMore := stops_isDigit_of_goesOn stops
      have isMark : (decide (mark = 'e') || decide (mark = 'E')) = true := by simpa using isMark
      simp only [List.cons_append, List.append_assoc, readExponent, if_pos isMark,
        readSign_append isSign nonempty all, takeWhile_append_of_stops all noMore,
        dropWhile_append_of_stops all noMore, List.isEmpty_iff, nonempty, if_false,
        decide_eq_true_eq]

theorem WritesExponent.stops_isDigit {marked : List Char} {exponent : Int}
    (hasExponent : WritesExponent marked exponent) (stops : Stops goesOn rest) :
    Stops isDigit (marked ++ rest) ∧ ∀ c ∈ (marked ++ rest).head?, c ≠ '.' := by
  cases hasExponent with
  | absent =>
      refine ⟨stops_isDigit_of_goesOn stops, fun c mem => ?_⟩
      have refused := stops c mem
      simp only [goesOn, Bool.or_eq_false_iff, beq_eq_false_iff_ne] at refused
      exact refused.1.1.2
  | marked isMark _ _ _ =>
      simp only [List.mem_cons, List.not_mem_nil, or_false] at isMark
      rcases isMark with rfl | rfl
      · exact ⟨stops_cons rfl _, by simp⟩
      · exact ⟨stops_cons rfl _, by simp⟩

theorem WritesFraction.stops_isDigit {point fraction : List Char}
    (hasFraction : WritesFraction point fraction) (stops : Stops isDigit rest) :
    Stops isDigit (point ++ rest) := by
  cases hasFraction with
  | absent => exact stops
  | point _ => exact stops_cons rfl _

/-- A literal is read as itself in front of anything that it cannot go on with. -/
theorem readLiteral_append (literal : WritesLiteral written l) (stops : Stops goesOn rest) :
    readLiteral (written ++ rest) = some (l, rest) := by
  rcases literal with
    @⟨whole, point, fraction, marked, exponent, all, hasFraction, hasExponent, nonempty⟩
  rcases hasExponent.stops_isDigit stops with ⟨behindFraction, noPoint⟩
  have behindWhole := hasFraction.stops_isDigit behindFraction
  have notEmpty : ¬ ((whole.isEmpty && fraction.isEmpty) = true) := by
    simpa [List.append_eq_nil_iff] using nonempty
  simp only [readLiteral, List.append_assoc, takeWhile_append_of_stops all behindWhole,
    dropWhile_append_of_stops all behindWhole,
    readFraction_append hasFraction behindFraction noPoint,
    if_neg notEmpty, readExponent_append hasExponent stops]

/-! ## Characters of a literal -/

/-- The characters of a literal. -/
def isLiteralChar (c : Char) : Bool :=
  goesOn c || c == '+' || c == '-'

theorem isLiteralChar_of_isDigit {c : Char} (digit : isDigit c = true) :
    isLiteralChar c = true := by
  simp [isLiteralChar, goesOn, digit]

theorem WritesFraction.all_isLiteralChar {point fraction : List Char}
    (hasFraction : WritesFraction point fraction) : ∀ c ∈ point, isLiteralChar c = true := by
  cases hasFraction with
  | absent => exact nofun
  | point all =>
      intro c mem
      rcases List.mem_cons.mp mem with rfl | mem
      · rfl
      · exact isLiteralChar_of_isDigit (all c mem)

theorem WritesExponent.all_isLiteralChar {marked : List Char} {exponent : Int}
    (hasExponent : WritesExponent marked exponent) : ∀ c ∈ marked, isLiteralChar c = true := by
  cases hasExponent with
  | absent => exact nofun
  | @marked mark sign digits isMark isSign _ all =>
      intro c mem
      simp only [List.mem_cons, List.not_mem_nil, or_false, List.mem_append] at isMark isSign mem
      rcases mem with rfl | mem | mem
      · rcases isMark with rfl | rfl <;> rfl
      · rcases isSign with rfl | rfl | rfl
        · cases mem
        · rw [List.mem_singleton.mp mem]
          rfl
        · rw [List.mem_singleton.mp mem]
          rfl
      · exact isLiteralChar_of_isDigit (all c mem)

theorem WritesLiteral.all_isLiteralChar (literal : WritesLiteral written l) :
    ∀ c ∈ written, isLiteralChar c = true := by
  rcases literal with ⟨all, hasFraction, hasExponent, -⟩
  intro c mem
  rcases List.mem_append.mp mem with mem | mem
  · exact isLiteralChar_of_isDigit (all c mem)
  · rcases List.mem_append.mp mem with mem | mem
    · exact hasFraction.all_isLiteralChar c mem
    · exact hasExponent.all_isLiteralChar c mem

/-- A literal begins with a digit or with a point in front of one. -/
theorem WritesLiteral.exists_cons (literal : WritesLiteral written l) :
    ∃ c more, written = c :: more ∧
      (isDigit c = true ∨ c = '.' ∧ ∃ d ∈ more.head?, isDigit d = true) := by
  rcases literal with @⟨whole, point, fraction, marked, exponent, all, hasFraction, -, nonempty⟩
  cases whole with
  | cons c more => exact ⟨c, _, rfl, .inl (all c List.mem_cons_self)⟩
  | nil =>
      cases hasFraction with
      | absent => exact absurd rfl nonempty
      | point digits =>
          rcases List.exists_cons_of_ne_nil nonempty with ⟨d, others, split⟩
          rw [List.nil_append] at split
          subst split
          exact ⟨'.', _, rfl, .inr ⟨rfl, d, rfl, digits d List.mem_cons_self⟩⟩

end Stencil.Number
