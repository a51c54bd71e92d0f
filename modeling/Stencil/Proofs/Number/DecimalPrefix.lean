import Stencil.Number.Prefix
import Stencil.Proofs.Text.Utf8
import Stencil.Proofs.Value.NumericText

/-!
# Decimal numbers at the front of a text

A scan takes every byte that may belong to a number, so that it never stops in front of the end of a
number.  What it takes too much is given back byte by byte.  All that it takes is ASCII, so that
every front that is tried ends between two characters, and the longest number is found.
-/

namespace Stencil.Number

open Text

/-! ## The grammar -/

/-- A text that begins with the name of infinity behind a sign or none. -/
def BeginsInfinite (text sign : List Char) : Prop :=
  sign ∈ signs ∧ sign ++ "Infinity".toList <+: text

/-- The number at the front of a text: an infinity, or otherwise the longest front that is the text
of a decimal number. -/
inductive ReadsNumber (text : List Char) : Binary64 → Prop where
  | infinity {sign : List Char} :
      BeginsInfinite text sign → ReadsNumber text (.infinity (decide (sign = ['-'])))
  | longest {front : List Char} {n : Binary64} :
      (∀ sign, ¬ BeginsInfinite text sign) →
      front <+: text →
      WritesDecimal front n →
      (∀ other m, other <+: text → WritesDecimal other m → other.length ≤ front.length) →
      ReadsNumber text n
  | nothing :
      (∀ sign, ¬ BeginsInfinite text sign) →
      (∀ front n, front <+: text → ¬ WritesDecimal front n) →
      ReadsNumber text .nan

/-- Giving back bytes from a count of them on ends with a number.  Every front that is tried ends
between two characters of the text. -/
inductive GivesBack (text : List Char) : ℕ → Binary64 → Prop where
  | empty : GivesBack text 0 .nan
  | number {front rest : List Char} {n : Binary64} :
      text = front ++ rest →
      WritesDecimal front n →
      GivesBack text (utf8Length front) n
  | shorter {front rest : List Char} {size : ℕ} {n : Binary64} :
      text = front ++ rest →
      utf8Length front = size + 1 →
      (∀ m, ¬ WritesDecimal front m) →
      GivesBack text size n →
      GivesBack text (size + 1) n

variable {text front rest digits : List Char} {scan further : Scan} {n : Binary64} {size : ℕ}

/-! ## Bytes of ASCII characters -/

/-- A text of ASCII characters. -/
def IsAscii (text : List Char) : Prop :=
  ∀ c ∈ text, c.toNat < 0x80

theorem utf8Length_eq_length (ascii : IsAscii text) : utf8Length text = text.length := by
  induction text with
  | nil => rfl
  | cons c rest ih =>
      rw [IsAscii, List.forall_mem_cons] at ascii
      rw [utf8Length, utf8Bytes_of_lt ascii.1, ih ascii.2, List.length_singleton, List.length_cons,
        Nat.add_comm]

theorem length_flatMap_utf8Bytes (text : List Char) :
    (text.flatMap utf8Bytes).length = utf8Length text := by
  induction text with
  | nil => rfl
  | cons c rest ih => rw [List.flatMap_cons, List.length_append, ih, utf8Length]

theorem utf8Length_append (front rest : List Char) :
    utf8Length (front ++ rest) = utf8Length front + utf8Length rest := by
  simp only [← length_flatMap_utf8Bytes, List.flatMap_append, List.length_append]

/-- Two fronts of a text with the same count of bytes are the same. -/
theorem eq_of_utf8Length_eq {other : List Char} (isFront : front <+: text) (also : other <+: text)
    (same : utf8Length front = utf8Length other) : front = other := by
  have longer {front other : List Char} (within : front <+: other)
      (same : utf8Length front = utf8Length other) : front = other := by
    rcases within with ⟨more, rfl⟩
    rw [utf8Length_append, Nat.left_eq_add, ← length_flatMap_utf8Bytes, List.length_eq_zero_iff,
      List.flatMap_eq_nil_iff] at same
    have nothing : more = [] :=
      List.eq_nil_iff_forall_not_mem.mpr fun c mem => utf8Bytes_ne_nil c (same c mem)
    rw [nothing, List.append_nil]
  rcases List.prefix_or_prefix_of_prefix isFront also with first | second
  · exact longer first same
  · exact (longer second same.symm).symm

/-! ## What the scan takes -/

namespace Scan

/-- Only ASCII characters belong to a number. -/
theorem lt_of_next? {b : ℕ} (taken : scan.next? b = some further) : b < 0x80 := by
  by_contra large
  have noByte (c : Char) (ascii : c.toNat < 0x80) : ¬ b = c.toNat := by omega
  have refused : scan.next? b = none := by
    simp only [next?, noByte '+' (by decide), noByte '-' (by decide), noByte '.' (by decide),
      noByte 'e' (by decide), noByte 'E' (by decide), decide_false, Bool.or_self,
      Bool.false_eq_true, if_false]
    exact if_neg (by simp; omega)
  rw [refused] at taken
  cases taken

/-- The bytes that a scan takes are those of ASCII characters in front. -/
theorem exists_front_of_le_reach (scan : Scan) (text : List Char)
    (bound : size ≤ scan.reach (text.flatMap utf8Bytes)) :
    ∃ front rest, text = front ++ rest ∧ IsAscii front ∧ front.length = size := by
  induction text generalizing scan size with
  | nil =>
      rw [List.flatMap_nil, reach, Nat.le_zero] at bound
      exact ⟨[], [], rfl, nofun, bound.symm⟩
  | cons c text ih =>
      cases size with
      | zero => exact ⟨[], _, rfl, nofun, rfl⟩
      | succ size =>
          rcases exists_leads c with ⟨lead, more, bytes, leads⟩
          rw [List.flatMap_cons, bytes, List.cons_append, reach] at bound
          split at bound
          · rename_i further taken
            have ascii := lt_of_next? taken
            have single := leads.count.symm.trans ((continuationCount?_of_lt lead).1 ascii)
            rw [Option.some.injEq, List.length_eq_zero_iff] at single
            have code := leads.code
            rw [single] at bound code
            change lead = c.toNat at code
            rcases ih further (Nat.le_of_succ_le_succ bound) with ⟨front, rest, rfl, all, length⟩
            refine ⟨c :: front, rest, rfl, List.forall_mem_cons.mpr ⟨code ▸ ascii, all⟩, ?_⟩
            rw [List.length_cons, length]
          · exact absurd bound (Nat.not_succ_le_zero size)

/-! ## The scan of a number -/

/-- A scan takes all characters of a text. -/
inductive Passes : Scan → List Char → Scan → Prop where
  | nil {scan : Scan} : Passes scan [] scan
  | cons {scan middle further : Scan} {c : Char} {rest : List Char} :
      scan.next? c.toNat = some middle →
      Passes middle rest further →
      Passes scan (c :: rest) further

theorem Passes.append {middle : Scan} (first : Passes scan front middle)
    (second : Passes middle rest further) : Passes scan (front ++ rest) further := by
  induction first with
  | nil => exact second
  | cons taken _ ih => exact .cons taken (ih second)

/-- What a scan takes lies within its reach. -/
theorem Passes.utf8Length_le_reach (passes : Passes scan front further) (rest : List Char) :
    utf8Length front ≤ scan.reach ((front ++ rest).flatMap utf8Bytes) := by
  induction passes with
  | nil => exact Nat.zero_le _
  | @cons _ _ _ c more taken _ ih =>
      rw [List.cons_append, List.flatMap_cons, utf8Length, utf8Bytes_of_lt (lt_of_next? taken),
        List.singleton_append, reach, taken, List.length_singleton, Nat.add_comm]
      exact Nat.succ_le_succ ih

theorem Passes.isAscii (passes : Passes scan front further) : IsAscii front := by
  induction passes with
  | nil => exact nofun
  | cons taken _ ih => exact List.forall_mem_cons.mpr ⟨lt_of_next? taken, ih⟩

/-- A scan behind digits. -/
def behindDigits (scan : Scan) (digits : List Char) : Scan :=
  if digits.isEmpty then scan else { scan with signFits := false, hasDigit := true }

theorem next?_of_isDigit {c : Char} (digit : isDigit c = true) (scan : Scan) :
    scan.next? c.toNat = some { scan with signFits := false, hasDigit := true } :=
  if_pos digit

theorem passes_digits (all : AllDigits digits) (scan : Scan) :
    Passes scan digits (scan.behindDigits digits) := by
  induction digits generalizing scan with
  | nil => exact .nil
  | cons c rest ih =>
      rw [AllDigits, List.forall_mem_cons] at all
      refine .cons (next?_of_isDigit all.1 scan) ?_
      have same : behindDigits { scan with signFits := false, hasDigit := true } rest =
          scan.behindDigits (c :: rest) := by
        cases rest <;> rfl
      exact same ▸ ih all.2 _

theorem behindDigits_fields (scan : Scan) (digits : List Char) :
    (scan.behindDigits digits).hasPoint = scan.hasPoint ∧
      (scan.behindDigits digits).hasMark = scan.hasMark ∧
      ((scan.behindDigits digits).hasDigit = true ↔ scan.hasDigit = true ∨ digits ≠ []) := by
  cases digits <;> simp [behindDigits]

theorem exists_passes_sign {sign : List Char} (isSign : sign ∈ signs) (scan : Scan)
    (fits : scan.signFits = true) :
    ∃ signFits, Passes scan sign { scan with signFits := signFits } := by
  simp only [signs, List.mem_cons, List.not_mem_nil, or_false] at isSign
  rcases isSign with rfl | rfl | rfl
  · exact ⟨_, .nil⟩
  · exact ⟨false, .cons (by simp [next?, fits]) .nil⟩
  · exact ⟨false, .cons (by simp [next?, fits]) .nil⟩

theorem exists_passes_fraction {point fraction : List Char}
    (written : WritesFraction point fraction)
    (noPoint : scan.hasPoint = false) (noMark : scan.hasMark = false) :
    ∃ further, Passes scan point further ∧ further.hasMark = false ∧
      (further.hasDigit = true ↔ scan.hasDigit = true ∨ fraction ≠ []) := by
  cases written with
  | absent => exact ⟨scan, .nil, noMark, by simp⟩
  | point all =>
      have taken :
          scan.next? '.'.toNat = some { scan with signFits := false, hasPoint := true } := by
        simp [next?, noPoint, noMark]
      have fields := behindDigits_fields { scan with signFits := false, hasPoint := true } fraction
      exact ⟨_, .cons taken (passes_digits all _), fields.2.1.trans noMark, fields.2.2⟩

theorem exists_passes_exponent {marked : List Char} {exponent : ℤ}
    (written : WritesExponent marked exponent) (hasDigit : scan.hasDigit = true)
    (noMark : scan.hasMark = false) : ∃ further, Passes scan marked further := by
  cases written with
  | absent => exact ⟨scan, .nil⟩
  | @marked mark sign digits isMark isSign _ all =>
      have taken :
          scan.next? mark.toNat = some { scan with signFits := true, hasMark := true } := by
        simp only [List.mem_cons, List.not_mem_nil, or_false] at isMark
        rcases isMark with rfl | rfl <;> simp [next?, hasDigit, noMark]
      rcases exists_passes_sign isSign { scan with signFits := true, hasMark := true } rfl with
        ⟨signFits, passes⟩
      exact ⟨_, .cons taken (passes.append (passes_digits all _))⟩

/-- A scan takes every number. -/
theorem exists_passes_of_writesDecimal (writes : WritesDecimal front n) :
    ∃ further, Passes start front further := by
  rcases writes with ⟨isSign, @⟨whole, point, fraction, marked, exponent, all, hasFraction,
    hasExponent, nonempty⟩⟩
  rcases exists_passes_sign isSign start rfl with ⟨signFits, behindSign⟩
  have fields := behindDigits_fields ⟨signFits, false, false, false⟩ whole
  rcases exists_passes_fraction hasFraction fields.1 fields.2.1 with
    ⟨behindFraction, passesFraction, noMark, hasDigit⟩
  have digit : behindFraction.hasDigit = true := by
    rw [hasDigit, fields.2.2, or_assoc, ← not_and_or, ← List.append_eq_nil_iff]
    exact .inr nonempty
  rcases exists_passes_exponent hasExponent digit noMark with ⟨further, passesExponent⟩
  exact ⟨further, behindSign.append
    ((passes_digits all _).append (passesFraction.append passesExponent))⟩

end Scan

/-! ## Numbers that are given back -/

theorem giveBack_succ (bound : size + 1 ≤ scan.reach (text.flatMap utf8Bytes)) :
    ∃ front rest, text = front ++ rest ∧ utf8Length front = size + 1 ∧
      giveBack (text.flatMap utf8Bytes) (size + 1) =
        (readDecimal? front).getD (giveBack (text.flatMap utf8Bytes) size) := by
  rcases scan.exists_front_of_le_reach text bound with ⟨front, rest, rfl, ascii, length⟩
  have bytes := (utf8Length_eq_length ascii).trans length
  have taken : ((front ++ rest).flatMap utf8Bytes).take (size + 1) = front.flatMap utf8Bytes := by
    rw [List.flatMap_append, List.take_left' ((length_flatMap_utf8Bytes front).trans bytes)]
  refine ⟨front, rest, rfl, bytes, ?_⟩
  rw [giveBack, taken, ofUtf8?_eq_some_iff.mpr rfl, Option.bind_some]
  cases readDecimal? front <;> rfl

/-- Within the reach of a scan, giving back ends. -/
theorem givesBack_giveBack (bound : size ≤ scan.reach (text.flatMap utf8Bytes)) :
    GivesBack text size (giveBack (text.flatMap utf8Bytes) size) := by
  induction size with
  | zero => exact .empty
  | succ size ih =>
      rcases giveBack_succ bound with ⟨front, rest, split, length, given⟩
      rw [given]
      cases read : readDecimal? front with
      | some n =>
          rw [← length]
          exact .number split (readDecimal?_eq_some_iff.mp read)
      | none =>
          refine .shorter split length (fun m writes => ?_) (ih (Nat.le_of_succ_le bound))
          rw [readDecimal?_eq_some_iff.mpr writes] at read
          cases read

theorem WritesDecimal.ne_nil (writes : WritesDecimal front n) : front ≠ [] := by
  rcases writes with ⟨_, literal⟩
  rcases literal.exists_cons with ⟨c, more, rfl, -⟩
  simp

/-- What is given back is the longest number among the fronts that are tried. -/
theorem GivesBack.cases_longest (gives : GivesBack text size n) :
    (∃ front, front <+: text ∧ WritesDecimal front n ∧
      ∀ other m, other <+: text → WritesDecimal other m → utf8Length other ≤ size →
        utf8Length other ≤ utf8Length front) ∨
    n = .nan ∧ ∀ other m, other <+: text → utf8Length other ≤ size → ¬ WritesDecimal other m := by
  induction gives with
  | empty =>
      refine .inr ⟨rfl, fun other m isFront short writes => writes.ne_nil ?_⟩
      exact eq_of_utf8Length_eq isFront List.nil_prefix (Nat.le_zero.mp short)
  | @number front rest _ split writes =>
      exact .inl ⟨front, ⟨rest, split.symm⟩, writes, fun _ _ _ _ short => short⟩
  | @shorter front rest size n split length none _ ih =>
      have isFront : front <+: text := ⟨rest, split.symm⟩
      have shorter {other : List Char} {m : Binary64} (also : other <+: text)
          (writes : WritesDecimal other m) (short : utf8Length other ≤ size + 1) :
          utf8Length other ≤ size := by
        by_contra long
        have same := eq_of_utf8Length_eq also isFront (by omega)
        exact none m (same ▸ writes)
      rcases ih with ⟨longest, longestFront, writes, all⟩ | ⟨rfl, all⟩
      · exact .inl ⟨longest, longestFront, writes, fun other m also writes short =>
          all other m also writes (shorter also writes short)⟩
      · exact .inr ⟨rfl, fun other m also short writes =>
          all other m also (shorter also writes short) writes⟩

/-! ## The reader -/

/-- No number is longer than what a scan takes. -/
theorem WritesDecimal.length_bounds (writes : WritesDecimal front n) (isFront : front <+: text) :
    utf8Length front = front.length ∧
      utf8Length front ≤ Scan.start.reach (text.flatMap utf8Bytes) := by
  rcases Scan.exists_passes_of_writesDecimal writes with ⟨further, passes⟩
  rcases isFront with ⟨rest, rfl⟩
  exact ⟨utf8Length_eq_length passes.isAscii, passes.utf8Length_le_reach rest⟩

theorem readsNumber_giveBack (noInfinity : ∀ sign, ¬ BeginsInfinite text sign) :
    ReadsNumber text
      (giveBack (text.flatMap utf8Bytes) (Scan.start.reach (text.flatMap utf8Bytes))) := by
  have gives := @givesBack_giveBack text Scan.start _ le_rfl
  rcases gives.cases_longest with ⟨front, isFront, writes, longest⟩ | ⟨none, all⟩
  · refine .longest noInfinity isFront writes fun other m also writesOther => ?_
    have bounds := writesOther.length_bounds also
    rw [← bounds.1, ← (writes.length_bounds isFront).1]
    exact longest other m also writesOther bounds.2
  · rw [none]
    refine .nothing noInfinity fun front m isFront writes => ?_
    exact all front m isFront (writes.length_bounds isFront).2 writes

theorem BeginsInfinite.isPrefixOf {sign : List Char} (begins : BeginsInfinite text sign) :
    "Infinity".toList.isPrefixOf (readSign text).2 = true ∧
      (readSign text).1 = decide (sign = ['-']) := by
  rcases begins with ⟨isSign, rest, rfl⟩
  simp only [signs, List.mem_cons, List.not_mem_nil, or_false] at isSign
  rcases isSign with rfl | rfl | rfl <;> exact ⟨rfl, rfl⟩

theorem exists_beginsInfinite (begins : "Infinity".toList.isPrefixOf (readSign text).2 = true) :
    ∃ sign, BeginsInfinite text sign := by
  rcases exists_of_readSign text with ⟨sign, isSign, split, -⟩
  rcases List.isPrefixOf_iff_prefix.mp begins with ⟨rest, unsigned⟩
  refine ⟨sign, isSign, rest, ?_⟩
  rw [List.append_assoc, unsigned, ← split]

theorem readPrefix_eq (s : String) :
    readPrefix s =
      if "Infinity".toList.isPrefixOf (readSign (trimStart s.toList)).2 then
        .infinity (readSign (trimStart s.toList)).1
      else
        giveBack ((trimStart s.toList).flatMap utf8Bytes)
          (Scan.start.reach ((trimStart s.toList).flatMap utf8Bytes)) :=
  rfl

theorem readPrefix_of_not_beginsInfinite {s : String}
    (noInfinity : ∀ sign, ¬ BeginsInfinite (trimStart s.toList) sign) :
    readPrefix s =
      giveBack ((trimStart s.toList).flatMap utf8Bytes)
        (Scan.start.reach ((trimStart s.toList).flatMap utf8Bytes)) := by
  rw [readPrefix_eq, if_neg]
  intro begins
  rcases exists_beginsInfinite begins with ⟨sign, begins⟩
  exact noInfinity sign begins

/-- The reader finds the number at the front of a text. -/
theorem readsNumber_readPrefix (s : String) : ReadsNumber (trimStart s.toList) (readPrefix s) := by
  by_cases begins : ∃ sign, BeginsInfinite (trimStart s.toList) sign
  · rcases begins with ⟨sign, begins⟩
    rw [readPrefix_eq, if_pos begins.isPrefixOf.1, begins.isPrefixOf.2]
    exact .infinity begins
  · have noInfinity := not_exists.mp begins
    rw [readPrefix_of_not_beginsInfinite noInfinity]
    exact readsNumber_giveBack noInfinity

theorem WritesDecimal.isNaN_eq_false (writes : WritesDecimal front n) : n.isNaN = false := by
  rcases writes with ⟨_, _⟩
  exact Binary64.isNaN_ofDecimal _ _ _

/-- What begins with no number is read as none. -/
theorem ReadsNumber.isNaN_iff (reads : ReadsNumber text n) :
    n.isNaN = true ↔
      (∀ sign, ¬ BeginsInfinite text sign) ∧
        ∀ front m, front <+: text → ¬ WritesDecimal front m := by
  cases reads with
  | infinity begins => exact iff_of_false nofun fun none => none.1 _ begins
  | longest _ isFront writes _ =>
      rw [writes.isNaN_eq_false]
      exact iff_of_false nofun fun none => none.2 _ _ isFront writes
  | nothing noInfinity none => exact iff_of_true rfl ⟨noInfinity, none⟩

end Stencil.Number
