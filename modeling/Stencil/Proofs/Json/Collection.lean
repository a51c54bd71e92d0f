import Stencil.Proofs.Fields
import Stencil.Proofs.Json.String

/-!
# Reading written arrays and objects

Between brackets, the texts of elements and fields stand behind commas and white space.  A reader
that takes every single value takes all of them.
-/

namespace Stencil.Json

/-! ## White space -/

/-- A character that readers go over between values. -/
def IsBlank (c : Char) : Prop :=
  c = ' ' ∨ c = '\n' ∨ c = '\t' ∨ c = '\r'

/-- A text of white space. -/
def Blank (space : List Char) : Prop :=
  ∀ c ∈ space, IsBlank c

theorem blank_nil : Blank [] :=
  nofun

theorem Blank.append {first second : List Char} (firstBlank : Blank first)
    (secondBlank : Blank second) : Blank (first ++ second) := by
  intro c mem
  rcases List.mem_append.mp mem with mem | mem
  · exact firstBlank c mem
  · exact secondBlank c mem

theorem skipSpace_append {space : List Char} (blank : Blank space) {c : Char} (solid : ¬ IsBlank c)
    (more : List Char) (offset : ℕ) :
    Cursor.skipSpace ⟨space ++ c :: more, offset⟩ = ⟨c :: more, offset + space.length⟩ := by
  have taken : (space ++ c :: more).takeWhile
      (fun c => c = ' ' || c = '\n' || c = '\t' || c = '\r') = space := by
    rw [List.takeWhile_append_of_pos, List.takeWhile_cons_of_neg, List.append_nil]
    · simpa [IsBlank, or_assoc] using solid
    · intro d mem
      simpa [IsBlank, or_assoc] using blank d mem
  simp only [Cursor.skipSpace, Cursor.skip, taken, List.drop_left]

theorem skipSpace_of_blank {space : List Char} (blank : Blank space) (offset : ℕ) :
    Cursor.skipSpace ⟨space, offset⟩ = ⟨[], offset + space.length⟩ := by
  have taken : space.takeWhile (fun c => c = ' ' || c = '\n' || c = '\t' || c = '\r') = space := by
    rw [List.takeWhile_eq_self_iff]
    intro d mem
    simpa [IsBlank, or_assoc] using blank d mem
  simp only [Cursor.skipSpace, Cursor.skip, taken, List.drop_length]

theorem endsNumber_cons {c : Char} (noDigit : Text.isDigit c = false)
    (noMark : c ≠ '.' ∧ c ≠ 'e' ∧ c ≠ 'E') (more : List Char) : EndsNumber (c :: more) where
  noDigit := noDigit_cons noDigit
  noMark := by
    intro d mem
    rw [List.head?_cons, Option.mem_some_iff] at mem
    exact mem ▸ noMark

theorem Blank.endsNumber {space : List Char} (blank : Blank space) {more : List Char}
    (ends : EndsNumber more) : EndsNumber (space ++ more) := by
  cases space with
  | nil => exact ends
  | cons c others =>
      rcases blank c List.mem_cons_self with rfl | rfl | rfl | rfl
      all_goals exact endsNumber_cons rfl (by decide) _

/-! ## Lists -/

/-- Written elements or fields that come after the first one. -/
def followers (lead : List Char) (parts : List (List Char)) : List Char :=
  parts.flatMap fun part => ',' :: (lead ++ part)

theorem intercalate_cons (lead part : List Char) (parts : List (List Char)) :
    (',' :: lead).intercalate (part :: parts) = part ++ followers lead parts := by
  induction parts generalizing part with
  | nil => simp [followers, List.intercalate]
  | cons next parts ih =>
      have step : (',' :: lead).intercalate (part :: next :: parts) =
          part ++ (',' :: lead ++ (',' :: lead).intercalate (next :: parts)) := by
        simp [List.intercalate]
      rw [step, ih]
      simp [followers]

/-- Between brackets, written elements stand behind white space and commas. -/
theorem exists_bracket_eq {indent : List Char} (blank : Blank indent) (level : ℕ)
    (open' close : Char) (part : List Char) (parts : List (List Char)) :
    ∃ lead trail, Blank lead ∧ Blank trail ∧ bracket indent level open' close (part :: parts) =
      open' :: (lead ++ (part ++ (followers lead parts ++ (trail ++ [close])))) := by
  by_cases compact : indent.isEmpty
  · refine ⟨[], [], blank_nil, blank_nil, ?_⟩
    simp [bracket, compact, intercalate_cons]
  · have line : ∀ level, Blank ('\n' :: (List.replicate level indent).flatten) := by
      intro level c mem
      simp only [List.mem_cons, List.mem_flatten, List.mem_replicate] at mem
      rcases mem with rfl | ⟨_, ⟨-, rfl⟩, mem⟩
      · exact .inr (.inl rfl)
      · exact blank c mem
    refine ⟨_, _, line (level + 1), line level, ?_⟩
    simp [bracket, compact, intercalate_cons]

theorem endsNumber_followers {lead : List Char} (parts : List (List Char)) {rest : List Char}
    (ends : EndsNumber rest) : EndsNumber (followers lead parts ++ rest) := by
  cases parts with
  | nil => exact ends
  | cons part parts => exact endsNumber_cons rfl (by decide) _

theorem length_le_length_followers (lead : List Char) (parts : List (List Char)) :
    parts.length ≤ (followers lead parts).length := by
  induction parts with
  | nil => exact Nat.le_refl 0
  | cons part parts ih =>
      rw [followers, List.flatMap_cons, ← followers, List.length_append]
      simp only [List.length_cons]
      omega

/-! ## Arrays -/

/-- A text that begins neither with white space nor with the end of an array. -/
def BeginsItem (written : List Char) : Prop :=
  ∃ c more, written = c :: more ∧ ¬ IsBlank c ∧ c ≠ ']'

section

variable {value : Cursor → Except ReadError (Json × Cursor)} {written : Json → List Char}
  {lead trail : List Char}

theorem toNextItem_first {c : Char} (solid : ¬ IsBlank c) (noEnd : c ≠ ']') (blank : Blank lead)
    (more : List Char) (offset : ℕ) :
    toNextItem true ⟨lead ++ c :: more, offset⟩ =
      .ok (true, ⟨c :: more, offset + lead.length⟩) := by
  simp [toNextItem, skipSpace_append blank solid]

theorem toNextItem_later {c : Char} (solid : ¬ IsBlank c) (noEnd : c ≠ ']') (blank : Blank lead)
    (more : List Char) (offset : ℕ) :
    toNextItem false ⟨',' :: (lead ++ c :: more), offset⟩ =
      .ok (true, ⟨c :: more, offset + 1 + lead.length⟩) := by
  have comma : ¬ IsBlank ',' := by simp [IsBlank]
  have here := skipSpace_append blank_nil comma (lead ++ c :: more) offset
  have behind := skipSpace_append blank solid more (offset + 1)
  rw [List.nil_append] at here
  simp [toNextItem, here, Cursor.skip, behind, noEnd]

theorem toNextItem_end (blank : Blank trail) (first : Bool) (rest : List Char) (offset : ℕ) :
    toNextItem first ⟨trail ++ ']' :: rest, offset⟩ =
      .ok (false, ⟨']' :: rest, offset + trail.length⟩) := by
  have bracket : ¬ IsBlank ']' := by simp [IsBlank]
  simp [toNextItem, skipSpace_append blank bracket]

/-- The elements behind others are read up to the closing bracket. -/
theorem takes_readItems {items : List Json} (begins : ∀ item ∈ items, BeginsItem (written item))
    (takes : ∀ item ∈ items, ∀ more, EndsNumber more → Takes value (written item ++ more) item more)
    (blankLead : Blank lead) (blankTrail : Blank trail) {steps : ℕ} (enough : items.length < steps)
    (acc : List Json) (rest : List Char) :
    Takes (readItems value steps false acc)
      (followers lead (items.map written) ++ (trail ++ ']' :: rest)) (acc.reverse ++ items)
      rest := by
  induction items generalizing steps acc with
  | nil =>
      rcases Nat.exists_eq_add_one_of_ne_zero (Nat.ne_zero_of_lt enough) with ⟨steps, rfl⟩
      intro offset
      refine ⟨offset + trail.length + 1, ?_⟩
      rw [List.append_nil]
      change readItems value (steps + 1) false acc ⟨trail ++ ']' :: rest, offset⟩ = _
      simp only [readItems, toNextItem_end blankTrail, bind, Except.bind]
      rfl
  | cons item items ih =>
      rcases Nat.exists_eq_add_one_of_ne_zero (Nat.ne_zero_of_lt enough) with ⟨steps, rfl⟩
      rcases begins item List.mem_cons_self with ⟨c, more, written_eq, solid, noEnd⟩
      have others := ih (fun other mem => begins other (List.mem_cons_of_mem item mem))
        (fun other mem => takes other (List.mem_cons_of_mem item mem))
        (Nat.lt_of_succ_lt_succ enough) (item :: acc)
      have ends : EndsNumber (followers lead (items.map written) ++ (trail ++ ']' :: rest)) :=
        endsNumber_followers _ (blankTrail.endsNumber (endsNumber_cons rfl (by decide) rest))
      intro offset
      rcases takes item List.mem_cons_self _ ends (offset + 1 + lead.length) with ⟨behind, itemRead⟩
      rcases others behind with ⟨after, othersRead⟩
      refine ⟨after, ?_⟩
      have source : followers lead ((item :: items).map written) ++ (trail ++ ']' :: rest) =
          ',' :: (lead ++ c :: (more ++
            (followers lead (items.map written) ++ (trail ++ ']' :: rest)))) := by
        simp [followers, written_eq]
      rw [written_eq, List.cons_append] at itemRead
      rw [List.reverse_cons, List.append_assoc] at othersRead
      rw [source]
      simp only [readItems, toNextItem_later solid noEnd blankLead, bind, Except.bind, if_true,
        itemRead, othersRead]
      rfl

/-- The elements of an array are read up to its closing bracket. -/
theorem takes_readArray {item : Json} {items : List Json}
    (begins : ∀ other ∈ item :: items, BeginsItem (written other))
    (takes : ∀ other ∈ item :: items, ∀ more, EndsNumber more →
      Takes value (written other ++ more) other more)
    (blankLead : Blank lead) (blankTrail : Blank trail) (rest : List Char) :
    Takes (readArray value)
      (lead ++ (written item ++ (followers lead (items.map written) ++ (trail ++ ']' :: rest))))
      (item :: items) rest := by
  rcases begins item List.mem_cons_self with ⟨c, more, written_eq, solid, noEnd⟩
  have ends : EndsNumber (followers lead (items.map written) ++ (trail ++ ']' :: rest)) :=
    endsNumber_followers _ (blankTrail.endsNumber (endsNumber_cons rfl (by decide) rest))
  intro offset
  rw [readArray]
  generalize steps_eq : (lead ++ (written item ++
    (followers lead (items.map written) ++ (trail ++ ']' :: rest)))).length = steps
  have enough : items.length < steps := by
    have := length_le_length_followers lead (items.map written)
    simp only [List.length_append, List.length_cons, List.length_map] at this steps_eq
    omega
  rcases takes item List.mem_cons_self _ ends (offset + lead.length) with ⟨behind, itemRead⟩
  rcases takes_readItems (fun other mem => begins other (List.mem_cons_of_mem item mem))
    (fun other mem => takes other (List.mem_cons_of_mem item mem)) blankLead blankTrail enough
    [item] rest behind with ⟨after, othersRead⟩
  refine ⟨after, ?_⟩
  rw [written_eq, List.cons_append] at itemRead ⊢
  simp only [readItems, toNextItem_first solid noEnd blankLead, bind, Except.bind, if_true,
    itemRead, othersRead]
  rfl

theorem takes_readArray_nil (rest : List Char) : Takes (readArray value) (']' :: rest) [] rest := by
  intro offset
  refine ⟨offset + 1, ?_⟩
  have atEnd := toNextItem_end blank_nil true rest offset
  rw [List.nil_append] at atEnd
  rw [readArray]
  simp only [readItems, atEnd, bind, Except.bind]
  rfl

end

/-! ## Objects -/

/-- A written field: its key, a colon, white space and its value. -/
def fieldText (gap : List Char) (written : Json → List Char) (field : String × Json) : List Char :=
  stringText field.1 ++ ':' :: (gap ++ written field.2)

section

variable {value : Cursor → Except ReadError (Json × Cursor)} {written : Json → List Char}
  {lead gap trail : List Char}

theorem takes_readKey (key : String) (rest : List Char) :
    Takes readKey (stringText key ++ rest) key rest := by
  intro offset
  exact takes_readStringBody key rest (offset + 1)

theorem exists_stringText_eq (s : String) : ∃ more, stringText s = '\x22' :: more :=
  ⟨_, rfl⟩

theorem takes_toNextField_first (blank : Blank lead) (key : String) (rest : List Char) :
    Takes (toNextField true) (lead ++ (stringText key ++ rest)) (some key) rest := by
  have quote : ¬ IsBlank '\x22' := by simp [IsBlank]
  intro offset
  rcases takes_readKey key rest (offset + lead.length) with ⟨after, keyRead⟩
  refine ⟨after, ?_⟩
  rcases exists_stringText_eq key with ⟨more, text_eq⟩
  rw [text_eq, List.cons_append] at keyRead ⊢
  simp only [toNextField, skipSpace_append blank quote]
  change (readKey ⟨'\x22' :: (more ++ rest), offset + lead.length⟩ >>= _) = _
  rw [keyRead]
  rfl

theorem takes_toNextField_later (blank : Blank lead) (key : String) (rest : List Char) :
    Takes (toNextField false) (',' :: (lead ++ (stringText key ++ rest))) (some key) rest := by
  have quote : ¬ IsBlank '\x22' := by simp [IsBlank]
  have comma : ¬ IsBlank ',' := by simp [IsBlank]
  intro offset
  rcases takes_readKey key rest (offset + 1 + lead.length) with ⟨after, keyRead⟩
  refine ⟨after, ?_⟩
  rcases exists_stringText_eq key with ⟨more, text_eq⟩
  rw [text_eq, List.cons_append] at keyRead ⊢
  have here : Cursor.skipSpace ⟨',' :: (lead ++ '\x22' :: (more ++ rest)), offset⟩ =
      ⟨',' :: (lead ++ '\x22' :: (more ++ rest)), offset⟩ :=
    skipSpace_append blank_nil comma (lead ++ '\x22' :: (more ++ rest)) offset
  have behind : Cursor.skipSpace (Cursor.skip
      ⟨',' :: (lead ++ '\x22' :: (more ++ rest)), offset⟩ 1) =
        ⟨'\x22' :: (more ++ rest), offset + 1 + lead.length⟩ :=
    skipSpace_append blank quote (more ++ rest) (offset + 1)
  simp only [toNextField, here, behind, Bool.false_eq_true, if_false]
  change (readKey ⟨'\x22' :: (more ++ rest), offset + 1 + lead.length⟩ >>= _) = _
  rw [keyRead]
  rfl

theorem toNextField_end (blank : Blank trail) (first : Bool) (rest : List Char) (offset : ℕ) :
    toNextField first ⟨trail ++ '\x7d' :: rest, offset⟩ =
      .ok (none, ⟨'\x7d' :: rest, offset + trail.length⟩) := by
  have brace : ¬ IsBlank '\x7d' := by simp [IsBlank]
  simp [toNextField, skipSpace_append blank brace]

theorem readColon_eq (rest : List Char) (offset : ℕ) :
    readColon ⟨':' :: rest, offset⟩ = .ok ⟨rest, offset + 1⟩ := by
  have colon : ¬ IsBlank ':' := by simp [IsBlank]
  have here := skipSpace_append blank_nil colon rest offset
  rw [List.nil_append] at here
  simp [readColon, here, Cursor.skip]

/-- A field that comes next is read and set, and the reader goes on behind it. -/
theorem exists_readFields_eq {field : String × Json} {source more : List Char} {first : Bool}
    (next : Takes (toNextField first) source (some field.1)
      (':' :: (gap ++ (written field.2 ++ more))))
    (takes : Takes value (gap ++ (written field.2 ++ more)) field.2 more) (steps : ℕ)
    (acc : List (String × Json)) (offset : ℕ) :
    ∃ after, readFields value (steps + 1) first acc ⟨source, offset⟩ =
      readFields value steps false (Fields.insert field.1 field.2 acc) ⟨more, after⟩ := by
  rcases next offset with ⟨behindKey, keyRead⟩
  rcases takes (behindKey + 1) with ⟨after, itemRead⟩
  refine ⟨after, ?_⟩
  rw [readFields]
  simp only [keyRead, bind, Except.bind, readColon_eq, itemRead]

theorem readFields_end (blank : Blank trail) (steps : ℕ) (first : Bool)
    (acc : List (String × Json)) (rest : List Char) (offset : ℕ) :
    readFields value (steps + 1) first acc ⟨trail ++ '\x7d' :: rest, offset⟩ =
      .ok (acc, ⟨rest, offset + trail.length + 1⟩) := by
  rw [readFields]
  simp only [toNextField_end blank, bind, Except.bind]
  rfl

/-- The fields behind others are read up to the closing brace. -/
theorem takes_readFields {fields : List (String × Json)}
    (takes : ∀ field ∈ fields, ∀ more, EndsNumber more →
      Takes value (gap ++ (written field.2 ++ more)) field.2 more)
    (blankLead : Blank lead) (blankTrail : Blank trail) {steps : ℕ} (enough : fields.length < steps)
    {acc : List (String × Json)} (distinct : (Fields.keys (acc ++ fields)).Nodup)
    (rest : List Char) :
    Takes (readFields value steps false acc)
      (followers lead (fields.map (fieldText gap written)) ++ (trail ++ '\x7d' :: rest))
      (acc ++ fields) rest := by
  induction fields generalizing steps acc with
  | nil =>
      rcases Nat.exists_eq_add_one_of_ne_zero (Nat.ne_zero_of_lt enough) with ⟨steps, rfl⟩
      rw [List.append_nil]
      exact fun offset => ⟨_, readFields_end blankTrail steps false acc rest offset⟩
  | cons field fields ih =>
      rcases Nat.exists_eq_add_one_of_ne_zero (Nat.ne_zero_of_lt enough) with ⟨steps, rfl⟩
      have others := @ih (fun other mem => takes other (List.mem_cons_of_mem field mem)) steps
        (Nat.lt_of_succ_lt_succ enough) (acc ++ [field])
      rw [List.append_assoc] at others
      have ends : EndsNumber (followers lead (fields.map (fieldText gap written)) ++
          (trail ++ '\x7d' :: rest)) :=
        endsNumber_followers _ (blankTrail.endsNumber (endsNumber_cons rfl (by decide) rest))
      have source : followers lead ((field :: fields).map (fieldText gap written)) ++
          (trail ++ '\x7d' :: rest) = ',' :: (lead ++ (stringText field.1 ++ ':' :: (gap ++
            (written field.2 ++ (followers lead (fields.map (fieldText gap written)) ++
              (trail ++ '\x7d' :: rest)))))) := by
        simp [followers, fieldText]
      intro offset
      rw [source]
      rcases exists_readFields_eq (takes_toNextField_later blankLead field.1 _)
        (takes field List.mem_cons_self _ ends) steps acc offset with ⟨behind, step⟩
      rw [step, Fields.insert_of_not_mem (Fields.not_mem_keys_of_nodup distinct)]
      exact others distinct behind

/-- The fields of an object are read up to its closing brace. -/
theorem takes_readObject {field : String × Json} {fields : List (String × Json)}
    (takes : ∀ other ∈ field :: fields, ∀ more, EndsNumber more →
      Takes value (gap ++ (written other.2 ++ more)) other.2 more)
    (blankLead : Blank lead) (blankTrail : Blank trail)
    (distinct : (Fields.keys (field :: fields)).Nodup) (rest : List Char) :
    Takes (readObject value)
      (lead ++ (fieldText gap written field ++
        (followers lead (fields.map (fieldText gap written)) ++ (trail ++ '\x7d' :: rest))))
      (field :: fields) rest := by
  have ends : EndsNumber (followers lead (fields.map (fieldText gap written)) ++
      (trail ++ '\x7d' :: rest)) :=
    endsNumber_followers _ (blankTrail.endsNumber (endsNumber_cons rfl (by decide) rest))
  intro offset
  rw [readObject]
  generalize steps_eq : (lead ++ (fieldText gap written field ++
    (followers lead (fields.map (fieldText gap written)) ++ (trail ++ '\x7d' :: rest)))).length =
      steps
  have enough : fields.length < steps := by
    have := length_le_length_followers lead (fields.map (fieldText gap written))
    simp only [List.length_append, List.length_cons, List.length_map] at this steps_eq
    omega
  have source : lead ++ (fieldText gap written field ++
      (followers lead (fields.map (fieldText gap written)) ++ (trail ++ '\x7d' :: rest))) =
        lead ++ (stringText field.1 ++ ':' :: (gap ++ (written field.2 ++
          (followers lead (fields.map (fieldText gap written)) ++
            (trail ++ '\x7d' :: rest))))) := by
    simp [fieldText]
  rw [source]
  rcases exists_readFields_eq (takes_toNextField_first blankLead field.1 _)
    (takes field List.mem_cons_self _ ends) steps [] offset with ⟨behind, step⟩
  rw [step]
  exact takes_readFields (fun other mem => takes other (List.mem_cons_of_mem field mem)) blankLead
    blankTrail enough distinct rest behind

theorem takes_readObject_nil (rest : List Char) :
    Takes (readObject value) ('\x7d' :: rest) [] rest :=
  fun offset => ⟨_, readFields_end blank_nil _ true [] rest offset⟩

end

end Stencil.Json
