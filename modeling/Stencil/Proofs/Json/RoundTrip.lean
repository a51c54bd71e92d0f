import Stencil.Proofs.Json.Collection

/-!
# Reading written values

The text of a JSON value, in one line or with an indent of white space, is read as that value, if
all of its numbers are read from their own texts, no object repeats a key and it does not nest too
deeply.  Integers below `2 ^ 53` and numbers of few digits are read from their texts.  Of the others
some are not, since what is read is rounded twice.
-/

namespace Stencil.Json

/-- A number that is read from its own text. -/
def ReadsBack (n : Binary64) : Prop :=
  read (number n).compact = .ok (number n)

/-- A value that is read again from its text when arrays and objects may nest up to a count of
levels. -/
inductive Readable : ℕ → Json → Prop where
  | null {levels} : Readable levels null
  | bool {levels} (b : Bool) : Readable levels (bool b)
  | number {levels} {n : Binary64} (finite : n.isFinite) (unsigned : n.isZero → n = .zero)
      (reads : ReadsBack n) : Readable levels (number n)
  | string {levels} (s : String) : Readable levels (string s)
  | array {levels} {items : List Json} (each : ∀ item ∈ items, Readable levels item) :
      Readable (levels + 1) (array items)
  | object {levels} {fields : List (String × Json)} (distinct : (Fields.keys fields).Nodup)
      (each : ∀ field ∈ fields, Readable levels field.2) : Readable (levels + 1) (object fields)

/-! ## Scalars -/

/-- The characters that null, booleans, numbers and strings begin with. -/
def StartsScalar (c : Char) : Prop :=
  c ∈ ['n', 't', 'f', '-', '\x22'] ∨ Text.isDigit c = true

theorem StartsScalar.ne {c : Char} (starts : StartsScalar c) {d : Char}
    (other : d ∉ ['n', 't', 'f', '-', '\x22']) (noDigit : Text.isDigit d = false) : c ≠ d := by
  rintro rfl
  rcases starts with mem | digit
  · exact other mem
  · exact absurd digit (noDigit ▸ Bool.false_ne_true)

theorem StartsScalar.not_isBlank {c : Char} (starts : StartsScalar c) : ¬ IsBlank c := by
  rintro (rfl | rfl | rfl | rfl)
  all_goals exact starts.ne (by decide) rfl rfl

section

variable (convert : Numeral → Option Binary64)

/-- A text that a scalar begins with is not the beginning of an array or object. -/
theorem readValue_eq_readScalar {c : Char} (starts : StartsScalar c) {space : List Char}
    (blank : Blank space) (more : List Char) (levels offset : ℕ) :
    readValue convert levels ⟨space ++ c :: more, offset⟩ =
      readScalar convert ⟨c :: more, offset + space.length⟩ := by
  have noArray : c ≠ '[' := starts.ne (by decide) rfl
  have noObject : c ≠ '\x7b' := starts.ne (by decide) rfl
  cases levels with
  | zero => simp [readValue, skipSpace_append blank starts.not_isBlank, noArray, noObject]
  | succ levels => simp [readValue, skipSpace_append blank starts.not_isBlank, noArray, noObject]

variable {convert} in
theorem takes_readValue_of_readScalar {c : Char} (starts : StartsScalar c) {more : List Char}
    {json : Json} {rest : List Char} (taken : Takes (readScalar convert) (c :: more) json rest)
    {space : List Char} (blank : Blank space) (levels : ℕ) :
    Takes (readValue convert levels) (space ++ c :: more) json rest := by
  intro offset
  rw [readValue_eq_readScalar convert starts blank]
  exact taken (offset + space.length)

theorem readScalar_of_isDigit {c : Char} (digit : Text.isDigit c = true) (more : List Char)
    (offset : ℕ) :
    readScalar convert ⟨c :: more, offset⟩ = readNumber convert false ⟨c :: more, offset⟩ := by
  unfold readScalar
  split
  case h_7 begins =>
    cases begins
    exact if_pos digit
  case h_1 begins => cases begins
  all_goals
    rename_i begins
    cases begins
    exact absurd digit (by decide)

/-- The text of a number begins a scalar, and what it tells is converted. -/
theorem exists_readScalar_eq {s : Spelling} (readable : IsReadable s) (negative : Bool)
    {rest : List Char} (stops : EndsNumber rest) :
    ∃ c more, s.signedText negative ++ rest = c :: more ∧ StartsScalar c ∧
      ∀ offset, ∃ after, readScalar convert ⟨c :: more, offset⟩ =
        numberRead (convert (s.numeral negative)) ⟨rest, after⟩ := by
  have taken := exists_readNumber_eq convert readable negative stops
  cases negative with
  | true => exact ⟨'-', s.text ++ rest, rfl, .inl (by decide), fun offset => taken (offset + 1)⟩
  | false =>
      rcases Spelling.exists_text_eq_cons readable.proper with ⟨c, more, begins, digit⟩
      refine ⟨c, more ++ rest, by rw [Spelling.signedText, begins]; rfl, .inr digit, ?_⟩
      intro offset
      rw [readScalar_of_isDigit convert digit]
      rw [begins, List.cons_append] at taken
      exact taken offset

end

/-- A number is read from its own text if and only if this is converted to it. -/
theorem readsBack_iff {s : Spelling} {n : Binary64} (writes : WritesNumber s n) :
    ReadsBack n ↔ (s.numeral n.negative).value? = some n := by
  rcases exists_readScalar_eq Numeral.value? writes.toIsReadable n.negative endsNumber_nil with
    ⟨c, more, begins, starts, scalar⟩
  rcases scalar 0 with ⟨after, scalarRead⟩
  rw [List.append_nil] at begins
  have scalarFirst := readValue_eq_readScalar Numeral.value? starts blank_nil more
    nestingLimit 0
  rw [List.nil_append] at scalarFirst
  rw [ReadsBack, read, readWhole, compact, String.toList_ofList, write, writes.written, begins,
    scalarFirst]
  change (readScalar Numeral.value? ⟨c :: more, 0⟩ >>= _) = _ ↔ _
  rw [scalarRead]
  cases (s.numeral n.negative).value? with
  | none => exact ⟨nofun, nofun⟩
  | some m =>
      change Except.ok (number m) = Except.ok (number n) ↔ some m = some n
      rw [Except.ok.injEq, number.injEq, Option.some.injEq]

/-- A number with a short text is read from it. -/
theorem readsBack_of_short {s : Spelling} {n : Binary64} (writes : WritesNumber s n)
    (finite : n.isFinite)
    (small : Number.ofDigitList (s.whole ++ s.fraction) < 2 ^ 53)
    (near : (s.exponent.getD 0 - s.fraction.length).natAbs ≤ 15) : ReadsBack n :=
  (readsBack_iff writes).mpr (writes.value?_eq finite small near)

/-- Integers below `2 ^ 53` are read from their texts. -/
theorem readsBack_of_isInteger {n : Binary64} (whole : n.isInteger)
    (unsigned : n.isZero → n = .zero) (small : n.toInt.natAbs < 2 ^ 53) : ReadsBack n := by
  refine readsBack_of_short (writesNumber_integer whole unsigned small)
    (Bool.and_eq_true_iff.mp whole).1 ?_ ?_
  · rw [List.append_nil, Number.ofDigitList_digits]
    exact small
  · exact Nat.zero_le _

/-- Not every finite number is read from its own text. -/
theorem exists_not_readsBack : ∃ n : Binary64, n.isFinite ∧ ¬ ReadsBack n := by
  have writes : WritesNumber ⟨[0], [9, 4, 5, 2, 7, 0, 6, 9, 5, 5, 5, 3, 9, 2, 2, 3], none⟩
      (.ofDecimal false 9452706955539223 (-16)) :=
    ⟨⟨⟨⟨by decide, .inl rfl⟩, nofun⟩, by decide +kernel⟩, by decide +kernel⟩
  refine ⟨.ofDecimal false 9452706955539223 (-16), by decide +kernel, ?_⟩
  have converted : (Spelling.numeral ⟨[0], [9, 4, 5, 2, 7, 0, 6, 9, 5, 5, 5, 3, 9, 2, 2, 3], none⟩
      (Binary64.ofDecimal false 9452706955539223 (-16)).negative).value? =
        some ((Binary64.ofNat 9452706955539223).div (powerOfTen 16)) := by
    change (scaled? 9452706955539223 (-16)).map _ = _
    rw [scaled?, if_neg (by decide), scaleDown, if_pos (by decide)]
    rfl
  rw [readsBack_iff writes, converted, Option.some.injEq]
  decide +kernel

theorem exists_takes_numberText {n : Binary64} (finite : n.isFinite)
    (unsigned : n.isZero → n = .zero) (reads : ReadsBack n) {rest : List Char}
    (stops : EndsNumber rest) :
    ∃ c more, numberText n ++ rest = c :: more ∧ StartsScalar c ∧
      Takes (readScalar Numeral.value?) (c :: more) (number n) rest := by
  rcases exists_writesNumber finite unsigned with ⟨s, writes⟩
  rcases exists_readScalar_eq Numeral.value? writes.toIsReadable n.negative stops with
    ⟨c, more, begins, starts, scalar⟩
  rw [(readsBack_iff writes).mp reads] at scalar
  exact ⟨c, more, writes.written ▸ begins, starts, scalar⟩

variable {convert : Numeral → Option Binary64}

theorem takes_stringText (s : String) (rest : List Char) :
    Takes (readScalar convert) (stringText s ++ rest) (string s) rest := by
  intro offset
  rcases takes_readStringBody s rest (offset + 1) with ⟨after, read⟩
  refine ⟨after, ?_⟩
  change (readStringBody ⟨(stringText s).tail ++ rest, offset + 1⟩ >>= _) = _
  rw [read]
  rfl

/-! ## Values -/

theorem writeItems_eq_map (indent : List Char) (level : ℕ) (items : List Json) :
    writeItems indent level items = items.map (write indent level) := by
  induction items with
  | nil => rfl
  | cons item items ih => rw [writeItems, ih, List.map_cons]

theorem exists_writeFields_eq_map (indent : List Char) (level : ℕ) :
    ∃ gap, Blank gap ∧ ∀ fields, writeFields indent level fields =
      fields.map (fieldText gap (write indent level)) := by
  by_cases compact : indent.isEmpty
  · refine ⟨[], blank_nil, fun fields => ?_⟩
    induction fields with
    | nil => rfl
    | cons field fields ih => simp [writeFields, ih, fieldText, compact]
  · refine ⟨[' '], by simp [Blank, IsBlank], fun fields => ?_⟩
    induction fields with
    | nil => rfl
    | cons field fields ih => simp [writeFields, ih, fieldText, compact]

theorem StartsScalar.beginsItem {c : Char} (starts : StartsScalar c) (more : List Char) :
    BeginsItem (c :: more) :=
  ⟨c, more, rfl, starts.not_isBlank, starts.ne (by decide) rfl⟩

theorem beginsItem_bracket (indent : List Char) (level : ℕ) {open' : Char}
    (bracketed : open' = '[' ∨ open' = '\x7b') (close : Char) (parts : List (List Char)) :
    BeginsItem (bracket indent level open' close parts) := by
  have begins : ∃ more, bracket indent level open' close parts = open' :: more := by
    rw [bracket]
    split
    · exact ⟨_, rfl⟩
    · split <;> exact ⟨_, rfl⟩
  rcases begins with ⟨more, begins⟩
  refine ⟨open', more, begins, ?_⟩
  rcases bracketed with rfl | rfl <;> simp [IsBlank]

/-- The text of a value does not begin with white space or the end of an array. -/
theorem beginsItem_write (indent : List Char) (level : ℕ) {levels : ℕ} {json : Json}
    (readable : Readable levels json) : BeginsItem (write indent level json) := by
  cases readable with
  | null => exact StartsScalar.beginsItem (.inl (by decide)) _
  | bool b => cases b <;> exact StartsScalar.beginsItem (.inl (by decide)) _
  | number finite unsigned reads =>
      rcases exists_takes_numberText finite unsigned reads endsNumber_nil with
        ⟨c, more, written, starts, -⟩
      rw [List.append_nil] at written
      rw [write, written]
      exact starts.beginsItem more
  | string s => exact StartsScalar.beginsItem (.inl (by decide)) _
  | array each => exact beginsItem_bracket indent level (.inl rfl) ']' _
  | object distinct each => exact beginsItem_bracket indent level (.inr rfl) '\x7d' _

theorem takes_readValue_array {levels : ℕ} {more : List Char} {items : List Json} {rest : List Char}
    (taken : Takes (readArray (readValue convert levels)) more items rest) {space : List Char}
    (blank : Blank space) :
    Takes (readValue convert (levels + 1)) (space ++ '[' :: more) (array items) rest := by
  have bracket : ¬ IsBlank '[' := by simp [IsBlank]
  intro offset
  rcases taken (offset + space.length + 1) with ⟨after, itemsRead⟩
  refine ⟨after, ?_⟩
  simp only [readValue, skipSpace_append blank bracket]
  change (readArray (readValue convert levels) ⟨more, offset + space.length + 1⟩ >>= _) = _
  rw [itemsRead]
  rfl

theorem takes_readValue_object {levels : ℕ} {more : List Char} {fields : List (String × Json)}
    {rest : List Char} (taken : Takes (readObject (readValue convert levels)) more fields rest)
    {space : List Char} (blank : Blank space) :
    Takes (readValue convert (levels + 1)) (space ++ '\x7b' :: more) (object fields) rest := by
  have brace : ¬ IsBlank '\x7b' := by simp [IsBlank]
  intro offset
  rcases taken (offset + space.length + 1) with ⟨after, fieldsRead⟩
  refine ⟨after, ?_⟩
  simp only [readValue, skipSpace_append blank brace]
  change (readObject (readValue convert levels) ⟨more, offset + space.length + 1⟩ >>= _) = _
  rw [fieldsRead]
  rfl

/-- The text of a value is read as that value, whatever comes behind it. -/
theorem takes_readValue {indent : List Char} (blankIndent : Blank indent) {levels : ℕ} {json : Json}
    (readable : Readable levels json) (level : ℕ) {space : List Char} (blank : Blank space)
    {rest : List Char} (stops : EndsNumber rest) :
    Takes (readValue Numeral.value? levels) (space ++ (write indent level json ++ rest)) json
      rest := by
  induction readable generalizing level space rest with
  | null =>
      exact takes_readValue_of_readScalar (.inl (by decide)) (fun offset => ⟨_, rfl⟩) blank _
  | bool b =>
      cases b <;>
        exact takes_readValue_of_readScalar (.inl (by decide)) (fun offset => ⟨_, rfl⟩) blank _
  | number finite unsigned reads =>
      rcases exists_takes_numberText finite unsigned reads stops with
        ⟨c, more, written, starts, taken⟩
      rw [write, written]
      exact takes_readValue_of_readScalar starts taken blank _
  | string s =>
      exact takes_readValue_of_readScalar (.inl (by decide)) (takes_stringText s rest) blank _
  | @array _ items each ih =>
      rw [write, writeItems_eq_map]
      cases items with
      | nil => exact takes_readValue_array (takes_readArray_nil rest) blank
      | cons item items =>
          rcases exists_bracket_eq blankIndent level '[' ']' (write indent (level + 1) item)
            (items.map (write indent (level + 1))) with
            ⟨lead, trail, blankLead, blankTrail, written⟩
          rw [List.map_cons, written]
          have taken := takes_readArray
            (fun other mem => beginsItem_write indent (level + 1) (each other mem))
            (fun other mem more ends => ih other mem (level + 1) blank_nil ends) blankLead
            blankTrail rest
          simpa using takes_readValue_array taken blank
  | @object _ fields distinct each ih =>
      rcases exists_writeFields_eq_map indent (level + 1) with ⟨gap, blankGap, fields_eq⟩
      rw [write, fields_eq]
      cases fields with
      | nil => exact takes_readValue_object (takes_readObject_nil rest) blank
      | cons field fields =>
          rcases exists_bracket_eq blankIndent level '\x7b' '\x7d'
            (fieldText gap (write indent (level + 1)) field)
            (fields.map (fieldText gap (write indent (level + 1)))) with
            ⟨lead, trail, blankLead, blankTrail, written⟩
          rw [List.map_cons, written]
          have taken := takes_readObject
            (fun other mem more ends => ih other mem (level + 1) blankGap ends) blankLead
            blankTrail distinct rest
          simpa using takes_readValue_object taken blank

/-- The text of a value in any layout, with white space behind it, is read as that value. -/
theorem read_pretty_append {json : Json} (readable : Readable nestingLimit json) {indent : String}
    (blank : Blank indent.toList) {trail : String} (blankTrail : Blank trail.toList) :
    read (json.pretty indent ++ trail) = .ok json := by
  have stops : EndsNumber trail.toList := by
    simpa using blankTrail.endsNumber endsNumber_nil
  rcases takes_readValue blank readable 0 blank_nil stops 0 with ⟨after, taken⟩
  rw [List.nil_append] at taken
  rw [read, readWhole, pretty, String.toList_append, String.toList_ofList, taken]
  change (if (Cursor.skipSpace ⟨trail.toList, after⟩).rest.isEmpty then Except.ok json else _) = _
  rw [skipSpace_of_blank blankTrail]
  rfl

/-- The text of a value in any layout is read as that value. -/
theorem read_pretty {json : Json} (readable : Readable nestingLimit json) {indent : String}
    (blank : Blank indent.toList) : read (json.pretty indent) = .ok json := by
  have taken : read (json.pretty indent ++ "") = .ok json :=
    read_pretty_append readable blank blank_nil
  rwa [String.append_empty] at taken

end Stencil.Json
