import Stencil.Eval.Method
import Stencil.Proofs.Calendar.Timestamp
import Stencil.Proofs.Eval.DateComponents
import Stencil.Proofs.Value.Numeral

/-!
# What dates answer

A date at a whole number of milliseconds is determined by what it answers: its components, its
timestamp and its time each make the same date again.  Dates that are read from texts need not be
whole, and the last section says which are.
-/

namespace Stencil

open Calendar (Components Instant)

variable {now t u : Instant}

namespace DateMethod

/-! ## Components -/

/-- The methods that answer for the components of a date, from the year to the millisecond. -/
def partNames : List String :=
  ["getFullYear", "getMonth", "getDate", "getHours", "getMinutes", "getSeconds", "getMilliseconds"]

/-- The components of a date, in the same order. -/
def partList (t : Instant) : List ℤ :=
  [t.date.year, t.date.month, t.date.day, t.hour, t.minute, t.second, t.milliOfSecond]

theorem method?_partNames (now t : Instant) :
    partNames.map ((Value.date t).method? now [] ·) =
      ((partList t).map Value.int).map (some ∘ .ok) := by
  have answered : partNames.map ((Value.date t).method? now [] ·) =
      [Value.int t.date.year, .nat t.date.month, .nat t.date.day, .nat t.hour, .nat t.minute,
        .nat t.second, .nat t.milliOfSecond].map (some ∘ .ok) := rfl
  rw [answered]
  simp only [partList, Value.int, Value.nat, Binary64.ofInt_natCast, List.map_cons, List.map_nil]

/-- Components of a date are integers that are kept as numbers. -/
theorem small_partList (inCalendar : t.InCalendar) : ∀ n ∈ partList t, n.natAbs < 2 ^ 53 := by
  rcases inCalendar.year_bounds with ⟨yearLow, yearHigh⟩
  rcases t.date_bounds with ⟨month, -, day⟩
  rcases t.secondOfDay_eq with ⟨-, hour, minute, second⟩
  have milli := inCalendar.milliOfSecond_lt
  simp only [partList, List.forall_mem_cons, Int.natAbs_natCast]
  exact ⟨by omega, by omega, by omega, by omega, by omega, by omega, by omega, nofun⟩

theorem components_partList (inCalendar : t.InCalendar) :
    components ((partList t).map Value.int) = t.parts := by
  have small := small_partList inCalendar
  simp only [partList, List.forall_mem_cons] at small
  rcases small with ⟨year, month, day, hour, minute, second, milli, -⟩
  simp only [components, component, partList, List.map_cons, List.map_nil,
    List.getElem?_cons_zero, List.getElem?_cons_succ, toInt_toNumber_int year,
    toInt_toNumber_int month, toInt_toNumber_int day, toInt_toNumber_int hour,
    toInt_toNumber_int minute, toInt_toNumber_int second, toInt_toNumber_int milli]
  rfl

theorem allFinite_partList (inCalendar : t.InCalendar) :
    AllFinite ((partList t).map Value.int) := by
  intro v mem
  rcases List.mem_map.mp (List.mem_of_mem_take mem) with ⟨n, part, rfl⟩
  exact Binary64.isFinite_ofInt (small_partList inCalendar n part)

/-- A whole date is made of its components, unless its year is one of those that are taken for years
of the twentieth century. -/
theorem construct?_partList (now : Instant) (whole : t.IsWhole) (inCalendar : t.InCalendar)
    (notShort : ¬ (0 ≤ t.date.year ∧ t.date.year ≤ 99)) :
    construct? now ((partList t).map Value.int) = some t := by
  rw [construct?_of_several (by simp [partList]),
    ofComponents?_of_allFinite (allFinite_partList inCalendar), components_partList inCalendar]
  exact whole.instant?_parts notShort inCalendar

/-! ## Counts of milliseconds -/

theorem construct?_millis (now : Instant) (inCalendar : t.InCalendar) :
    construct? now [.int t.millis] = Instant.ofMillis? t.millis := by
  have small := inCalendar.natAbs_millis_lt
  change (if (Binary64.ofInt t.millis).isFinite then
    Instant.ofMillis? (Binary64.ofInt t.millis).toInt else none) = _
  rw [if_pos (Binary64.isFinite_ofInt small), Binary64.toInt_ofInt small]

/-- Arguments of a date that leave nothing finer than a millisecond and no leap second. -/
def WholeArguments (now : Instant) : Arguments → Prop
  | [] => now.IsWhole
  | [.date t] => t.IsWhole
  | [.string s] => ∀ r, Calendar.accepted? s = some r → r.IsWhole
  | _ => True

/-- Counts of milliseconds and components always make whole dates.  The other arguments hand on what
they have. -/
theorem isWhole_iff_of_construct? {args : Arguments} (made : construct? now args = some t) :
    t.IsWhole ↔ WholeArguments now args := by
  unfold construct? at made
  split at made
  · rcases Option.some.inj made with rfl
    exact Iff.rfl
  · rcases Option.some.inj made with rfl
    exact Iff.rfl
  · rename_i s
    rcases Option.bind_eq_some_iff.mp ((Calendar.read?_eq s).symm.trans made) with
      ⟨r, accepted, denoted⟩
    rw [Calendar.isWhole_iff_of_instant? (Calendar.hasFraction_of_accepted? accepted) denoted]
    simp only [WholeArguments, accepted, Option.some.injEq, forall_eq']
  · rename_i v notDate notText
    simp only at made
    split at made
    · refine iff_of_true (Instant.isWhole_of_ofMillis? made) ?_
      cases v with
      | date u => exact absurd rfl (notDate u)
      | string s => exact absurd rfl (notText s)
      | _ => trivial
    · cases made
  · rename_i notEmpty notDate notText notSingle
    rcases Option.bind_eq_some_iff.mp made with ⟨given, -, counted⟩
    split at counted
    · refine iff_of_true (Instant.isWhole_of_ofComponents? counted) ?_
      rcases args with _ | ⟨first, _ | ⟨second, rest⟩⟩
      · exact absurd rfl notEmpty
      · exact absurd rfl (notSingle first)
      · cases first <;> trivial
    · cases counted

/-- Different integers of less than 53 bits are different values. -/
theorem int_inj {m n : ℤ} (small : m.natAbs < 2 ^ 53) (small' : n.natAbs < 2 ^ 53) :
    Value.int m = Value.int n ↔ m = n := by
  refine ⟨fun same => ?_, congrArg Value.int⟩
  rw [← toInt_toNumber_int small, ← toInt_toNumber_int small', same]

theorem construct?_isoText (now : Instant) (whole : t.IsWhole) (inCalendar : t.InCalendar)
    (inCommonYears : 0 ≤ t.date.year ∧ t.date.year ≤ 9999) :
    construct? now [.string t.isoText] = some t := by
  change Calendar.read? t.isoText = some t
  rw [Instant.read?_isoText inCommonYears inCalendar whole.noLeap,
    Instant.wholeMillis_eq_self_iff.mpr whole.noFiner]

end DateMethod

open DateMethod

/-- A whole date is recovered from what it answers.  Its components make it again, unless its year
is taken for one of the twentieth century.  In the years 0 to 9999 its timestamp makes it again and
is parsed as its time.  Its weekday follows from its time. -/
theorem Builtin.construct_date_of_answers (now : Instant) (whole : t.IsWhole)
    (inCalendar : t.InCalendar) :
    (¬ (0 ≤ t.date.year ∧ t.date.year ≤ 99) →
        ∃ parts u, partNames.map ((Value.date t).method? now [] ·) = parts.map (some ∘ .ok) ∧
          Builtin.construct now parts .date = .ok u ∧ u.strictEq (.date t)) ∧
      (0 ≤ t.date.year ∧ t.date.year ≤ 9999 →
        ∃ text u, (Value.date t).method? now [] "toISOString" = some (.ok text) ∧
          Builtin.construct now [text] .date = .ok u ∧
          u.method? now [] "getTime" = (Value.date t).method? now [] "getTime" ∧
          some (Builtin.callMember now [text] .date "parse") =
            (Value.date t).method? now [] "getTime") ∧
      ∃ time : Binary64, (Value.date t).method? now [] "getTime" = some (.ok (.number time)) ∧
        time.isInteger ∧
        (Value.date t).method? now [] "getDay" =
          some (.ok (.int ((time.toInt / 86400000 + 4) % 7))) := by
  have small := inCalendar.natAbs_millis_lt
  refine ⟨?_, ?_, Binary64.ofInt t.millis, rfl, Binary64.isInteger_ofInt small, ?_⟩
  · intro notShort
    have made := construct?_partList now whole inCalendar notShort
    exact ⟨_, .date t, method?_partNames now t, construct_eq_ok_iff.mpr ⟨t, made, rfl⟩,
      beq_self_eq_true t⟩
  · intro inCommonYears
    have made := construct?_isoText now whole inCalendar inCommonYears
    have parsed : Calendar.read? (Arguments.text [.string t.isoText] 0) = some t := made
    refine ⟨.string t.isoText, .date t, rfl, construct_eq_ok_iff.mpr ⟨t, made, rfl⟩, rfl, ?_⟩
    rw [Builtin.callMember, Builtin.memberCall?, parsed]
    rfl
  · have weekday : ((Calendar.weekday t.dayNumber : ℕ) : ℤ) = (t.millis / 86400000 + 4) % 7 := by
      have noLeap := whole.noLeap
      simp only [Calendar.weekday, Instant.dayNumber, Instant.millis]
      omega
    rw [Binary64.toInt_ofInt small, ← weekday, Value.int, Binary64.ofInt_natCast]
    rfl

/-- The last millisecond of 29 February 1600 is made again of its components and its timestamp. -/
theorem Builtin.construct_date_of_leap_day :
    (∃ parts u, partNames.map ((Value.date ⟨-11670912001, 999000000⟩).method? ⟨0, 0⟩ [] ·) =
        parts.map (some ∘ .ok) ∧
      Builtin.construct ⟨0, 0⟩ parts .date = .ok u ∧
      u.strictEq (.date ⟨-11670912001, 999000000⟩)) ∧
      ∃ text u, (Value.date ⟨-11670912001, 999000000⟩).method? ⟨0, 0⟩ [] "toISOString" =
          some (.ok text) ∧
        Builtin.construct ⟨0, 0⟩ [text] .date = .ok u ∧
        u.method? ⟨0, 0⟩ [] "getTime" =
          (Value.date ⟨-11670912001, 999000000⟩).method? ⟨0, 0⟩ [] "getTime" ∧
        some (Builtin.callMember ⟨0, 0⟩ [text] .date "parse") =
          (Value.date ⟨-11670912001, 999000000⟩).method? ⟨0, 0⟩ [] "getTime" := by
  have whole : Instant.IsWhole ⟨-11670912001, 999000000⟩ := ⟨by decide, by decide⟩
  have inCalendar : Instant.InCalendar ⟨-11670912001, 999000000⟩ :=
    ⟨by decide, by decide, by decide⟩
  have year : (Instant.date ⟨-11670912001, 999000000⟩).year = 1600 := rfl
  rcases Builtin.construct_date_of_answers ⟨0, 0⟩ whole inCalendar with ⟨ofParts, ofText, -⟩
  rw [year] at ofParts ofText
  exact ⟨ofParts (by decide), ofText (by decide)⟩

/-! ## Dates that are determined by their time -/

/-- What a value answers for its time makes a date. -/
def Value.RemadeAs (now : Instant) (v remade : Value) : Prop :=
  ∃ time, v.method? now [] "getTime" = some (.ok time) ∧
    Builtin.construct now [time] .date = .ok remade

theorem Value.remadeAs_date_iff {remade : Value} (inCalendar : t.InCalendar) :
    (Value.date t).RemadeAs now remade ↔
      ∃ u, Instant.ofMillis? t.millis = some u ∧ remade = .date u := by
  rw [← construct?_millis now inCalendar, ← construct_eq_ok_iff]
  constructor
  · rintro ⟨time, answered, made⟩
    rw [Except.ok.inj (Option.some.inj answered)]
    exact made
  · intro made
    exact ⟨_, rfl, made⟩

theorem Value.strictEq_date_iff : (Value.date u).strictEq (.date t) ↔ u = t :=
  beq_iff_eq

theorem Value.method?_getTime_eq_iff (timed : u.InCalendar) (inCalendar : t.InCalendar) :
    (Value.date u).method? now [] "getTime" = (Value.date t).method? now [] "getTime" ↔
      u.millis = t.millis := by
  rw [← int_inj timed.natAbs_millis_lt inCalendar.natAbs_millis_lt]
  constructor
  · intro same
    exact Except.ok.inj (Option.some.inj same)
  · intro same
    exact congrArg (some ∘ Except.ok) same

theorem Value.method?_getMilliseconds_eq (timed : u.InCalendar) (inCalendar : t.InCalendar)
    (same : (Value.date u).method? now [] "getMilliseconds" =
      (Value.date t).method? now [] "getMilliseconds") : u.milliOfSecond = t.milliOfSecond := by
  have small (other : Instant) (inCalendar : other.InCalendar) :
      (other.milliOfSecond : ℤ).natAbs < 2 ^ 53 :=
    small_partList inCalendar _ (by simp [partList])
  have answers : Value.nat u.milliOfSecond = Value.nat t.milliOfSecond :=
    Except.ok.inj (Option.some.inj same)
  rw [Value.nat, Value.nat, ← Binary64.ofInt_natCast, ← Binary64.ofInt_natCast] at answers
  exact_mod_cast (int_inj (small u timed) (small t inCalendar)).mp answers

/-- The date that is made of the time of a date in no leap second, and of no other, answers every
method like it. -/
theorem Value.exists_remade_alike_iff (inCalendar : t.InCalendar) :
    (∃ remade, (Value.date t).RemadeAs now remade ∧ ∀ moment args name,
      remade.method? moment args name = (Value.date t).method? moment args name) ↔
        t.nanos < 1000000000 := by
  constructor
  · rintro ⟨remade, made, alike⟩
    rcases (remadeAs_date_iff inCalendar).mp made with ⟨u, counted, rfl⟩
    have timed := Instant.inCalendar_of_ofMillis? counted
    have same := method?_getMilliseconds_eq timed inCalendar (alike now [] "getMilliseconds")
    rw [← Instant.milliOfSecond_lt_iff, ← same, Instant.milliOfSecond_lt_iff]
    exact (Instant.isWhole_of_ofMillis? counted).noLeap
  · intro noLeap
    have counted := Instant.ofMillis?_millis inCalendar noLeap
    refine ⟨_, (remadeAs_date_iff inCalendar).mpr ⟨_, counted, rfl⟩, ?_⟩
    intro moment args name
    rw [method?, method?, call?_wholeMillis]

/-- The date that is made of the time of a date is that date exactly if it is whole. -/
theorem Value.exists_remade_strictEq_iff (inCalendar : t.InCalendar) :
    (∃ remade, (Value.date t).RemadeAs now remade ∧ remade.strictEq (.date t)) ↔ t.IsWhole := by
  rw [← Instant.ofMillis?_millis_eq_self_iff inCalendar]
  constructor
  · rintro ⟨remade, made, same⟩
    rcases (remadeAs_date_iff inCalendar).mp made with ⟨u, counted, rfl⟩
    rw [counted, strictEq_date_iff.mp same]
  · intro counted
    exact ⟨.date t, (remadeAs_date_iff inCalendar).mpr ⟨t, counted, rfl⟩,
      strictEq_date_iff.mpr rfl⟩

/-- Which constructed dates are determined by their time.  The date that is made of the time is the
date itself exactly if the arguments leave nothing finer than a millisecond and no leap second, and
dates of such arguments are equal if their times are.  It answers every method alike, and the
milliseconds are those of a second, exactly if the date is in no leap second. -/
theorem Builtin.construct_date_determined {args : Arguments} {v : Value}
    (nowInCalendar : now.InCalendar) (argsInCalendar : ∀ u, Value.date u ∈ args → u.InCalendar)
    (made : Builtin.construct now args .date = .ok v) :
    ((∃ remade, v.RemadeAs now remade ∧ remade.strictEq v) ↔ WholeArguments now args) ∧
      (WholeArguments now args → ∀ others w, (∀ u, Value.date u ∈ others → u.InCalendar) →
        WholeArguments now others → Builtin.construct now others .date = .ok w →
        w.method? now [] "getTime" = v.method? now [] "getTime" → w.strictEq v) ∧
      ∃ t, v = .date t ∧ (WholeArguments now args → t.nanos < 1000000000) ∧
        ((∃ remade, v.RemadeAs now remade ∧ ∀ moment args name,
          remade.method? moment args name = v.method? moment args name) ↔ t.nanos < 1000000000) ∧
        ∃ milli : ℕ, v.method? now [] "getMilliseconds" = some (.ok (.nat milli)) ∧
          (milli ≤ 999 ↔ t.nanos < 1000000000) := by
  rcases construct_eq_ok_iff.mp made with ⟨t, denoted, rfl⟩
  have inCalendar := Calendar.inCalendar_of_construct? nowInCalendar argsInCalendar denoted
  have whole := isWhole_iff_of_construct? denoted
  refine ⟨(Value.exists_remade_strictEq_iff inCalendar).trans whole, ?_, t, rfl,
    fun wholeArguments => (whole.mpr wholeArguments).noLeap,
    Value.exists_remade_alike_iff inCalendar, t.milliOfSecond, rfl,
    Nat.lt_succ_iff.symm.trans Instant.milliOfSecond_lt_iff⟩
  intro wholeArguments others w othersInCalendar wholeOthers madeOther sameTime
  rcases construct_eq_ok_iff.mp madeOther with ⟨u, denotedOther, rfl⟩
  have timed := Calendar.inCalendar_of_construct? nowInCalendar othersInCalendar denotedOther
  have wholeOther := (isWhole_iff_of_construct? denotedOther).mpr wholeOthers
  have sameMillis := (Value.method?_getTime_eq_iff timed inCalendar).mp sameTime
  exact Value.strictEq_date_iff.mpr
    (wholeOther.eq_of_millis_eq (whole.mpr wholeArguments) sameMillis)

/-- The millisecond before 1970 is a date that is made again of its time. -/
theorem Builtin.construct_date_determined_before_1970 :
    Builtin.construct ⟨0, 0⟩ [.int (-1)] .date = .ok (.date ⟨-1, 999000000⟩) ∧
      ∃ remade, (Value.date ⟨-1, 999000000⟩).RemadeAs ⟨0, 0⟩ remade ∧
        remade.strictEq (.date ⟨-1, 999000000⟩) := by
  have epoch : Instant.InCalendar ⟨0, 0⟩ := ⟨by decide, by decide, by decide⟩
  have counted : construct? ⟨0, 0⟩ [.int (-1)] = some ⟨-1, 999000000⟩ := rfl
  have made : Builtin.construct ⟨0, 0⟩ [.int (-1)] .date = .ok (.date ⟨-1, 999000000⟩) :=
    construct_eq_ok_iff.mpr ⟨_, counted, rfl⟩
  have noDates : ∀ u, Value.date u ∈ [Value.int (-1)] → u.InCalendar := by
    intro u mem
    cases List.mem_singleton.mp mem
  exact ⟨made, (Builtin.construct_date_determined epoch noDates made).1.mpr trivial⟩

/-- A tenth of a millisecond makes a date that differs from the date of its time, and a leap second
one that is in its thousandth millisecond. -/
theorem Builtin.construct_date_undetermined :
    Builtin.construct ⟨0, 0⟩ [.string "2024-01-01T00:00:00.0001Z"] .date =
        .ok (.date ⟨1704067200, 100000⟩) ∧
      (Value.date ⟨1704067200, 100000⟩).RemadeAs ⟨0, 0⟩ (.date ⟨1704067200, 0⟩) ∧
      (Value.date ⟨1704067200, 0⟩).strictEq (.date ⟨1704067200, 100000⟩) = false ∧
      Builtin.construct ⟨0, 0⟩ [.string "2016-12-31T23:59:60Z"] .date =
        .ok (.date ⟨1483228799, 1000000000⟩) ∧
      (Value.date ⟨1483228799, 1000000000⟩).method? ⟨0, 0⟩ [] "getMilliseconds" =
        some (.ok (.nat 1000)) := by
  have finer : Calendar.read? "2024-01-01T00:00:00.0001Z" = some ⟨1704067200, 100000⟩ := rfl
  have leap : Calendar.read? "2016-12-31T23:59:60Z" = some ⟨1483228799, 1000000000⟩ := rfl
  have inCalendar : Instant.InCalendar ⟨1704067200, 100000⟩ := ⟨by decide, by decide, by decide⟩
  have again : Instant.ofMillis? (Instant.millis ⟨1704067200, 100000⟩) = some ⟨1704067200, 0⟩ := by
    decide
  exact ⟨construct_eq_ok_iff.mpr ⟨_, finer, rfl⟩,
    (Value.remadeAs_date_iff inCalendar).mpr ⟨_, again, rfl⟩, rfl,
    construct_eq_ok_iff.mpr ⟨_, leap, rfl⟩, rfl⟩

end Stencil
