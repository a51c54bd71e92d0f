import Stencil.Eval.Namespace
import Stencil.Proofs.Calendar.Components
import Stencil.Proofs.Number.Integer

/-!
# Dates constructed from components

The arguments of a date are its components, up to seven of them.  The main statement says which
time a date from components has: the sum of the components in unbounded arithmetic, unless the
milliseconds exceed a 64-bit word.
-/

namespace Stencil

open Calendar (Components Instant largestWord)

namespace DateMethod

variable {args : Arguments} {now t : Instant}

/-- The component that is given by an argument: its number without the fraction.  A missing day is
the first, and everything else that is missing is zero. -/
def component (args : Arguments) (i : ℕ) : ℤ :=
  match args[i]? with
  | some v => v.toNumber.toInt
  | none => if i = 2 then 1 else 0

theorem toInt_toNumber_int {n : ℤ} (small : n.natAbs < 2 ^ 53) :
    (Value.int n).toNumber.toInt = n :=
  Binary64.toInt_ofInt small

/-- The components that are given by arguments. -/
def components (args : Arguments) : Components :=
  ⟨component args 0, component args 1, component args 2, component args 3, component args 4,
    component args 5, component args 6⟩

/-- All arguments that are components are finite numbers. -/
def AllFinite (args : Arguments) : Prop :=
  ∀ v ∈ args.take 7, v.toNumber.isFinite

theorem components?_of_all (finite : ∀ v ∈ args, v.toNumber.isFinite) :
    components? args = some (args.map (·.toNumber.toInt)) := by
  induction args with
  | nil => rfl
  | cons v rest inductionHypothesis =>
      have later := inductionHypothesis fun w mem => finite w (List.mem_cons_of_mem v mem)
      simp only [components?, finite v List.mem_cons_self, if_true, later, Option.map_some,
        List.map_cons]

theorem components?_of_exists (infinite : ∃ v ∈ args, v.toNumber.isFinite = false) :
    components? args = none := by
  induction args with
  | nil => simp at infinite
  | cons v rest inductionHypothesis =>
      simp only [components?]
      cases finite : v.toNumber.isFinite with
      | false => rfl
      | true =>
          rcases infinite with ⟨w, mem, notFinite⟩
          rcases List.mem_cons.mp mem with rfl | later
          · rw [finite] at notFinite
            cases notFinite
          · rw [inductionHypothesis ⟨w, later, notFinite⟩]
            rfl

/-- The given components are followed by what stands for the missing ones. -/
theorem given_append_defaults (args : Arguments) :
    (args.take 7).map (·.toNumber.toInt) ++
        [0, 0, 1, 0, 0, 0, 0].drop ((args.take 7).map (·.toNumber.toInt)).length =
      [component args 0, component args 1, component args 2, component args 3, component args 4,
        component args 5, component args 6] := by
  rcases args with _ | ⟨_, _ | ⟨_, _ | ⟨_, _ | ⟨_, _ | ⟨_, _ | ⟨_, _ | ⟨_, _⟩⟩⟩⟩⟩⟩⟩ <;> rfl

theorem ofComponents?_of_allFinite (finite : AllFinite args) :
    ofComponents? args = (components args).instant? := by
  rw [ofComponents?, components?_of_all finite, Option.bind_some, given_append_defaults]
  rfl

theorem ofComponents?_of_infinite (infinite : ∃ v ∈ args.take 7, v.toNumber.isFinite = false) :
    ofComponents? args = none := by
  rw [ofComponents?, components?_of_exists infinite]
  rfl

theorem construct?_of_several (several : 2 ≤ args.length) :
    construct? now args = ofComponents? args := by
  rcases args with _ | ⟨first, _ | ⟨second, rest⟩⟩
  · cases several
  · simp at several
  · cases first <;> rfl

theorem construct_eq_ok_iff {outcome : Value} :
    Builtin.construct now args .date = .ok outcome ↔
      ∃ t, construct? now args = some t ∧ outcome = .date t := by
  rw [Builtin.construct, construct]
  cases construct? now args with
  | none => simp [Except.map]
  | some t => simp [Except.map, eq_comm]

theorem construct_eq_badDate_iff :
    Builtin.construct now args .date = .error .badDate ↔ construct? now args = none := by
  rw [Builtin.construct, construct]
  cases construct? now args with
  | none => simp [Except.map]
  | some t => simp [Except.map]

end DateMethod

open DateMethod

/-- A date from components.  Components that are not all finite give an invalid date.  Finite ones
give an invalid date or one whose time is the sum of the components exactly if the milliseconds fit
into a word; otherwise the date is early by what exceeds the largest word.  Components in reach give
a date whenever their sum lies on a day of the calendar. -/
theorem Builtin.construct_date_components (now : Instant) {args : Arguments}
    (several : 2 ≤ args.length) :
    ((∃ v ∈ args.take 7, v.toNumber.isFinite = false) →
        Builtin.construct now args .date = .error .badDate) ∧
      (AllFinite args →
        (Builtin.construct now args .date = .error .badDate ∨
          ∃ t, Builtin.construct now args .date = .ok (.date t) ∧
            (t.millis = (components args).millis ↔ (components args).milli < 2 ^ 63) ∧
            (2 ^ 63 ≤ (components args).milli →
              t.millis = (components args).millis - ((components args).milli - largestWord))) ∧
        ((components args).InReach →
          Instant.firstDay ≤ (components args).millis / 86400000 →
          (components args).millis / 86400000 ≤ Instant.lastDay →
          ∃ t, Builtin.construct now args .date = .ok (.date t) ∧
            t.millis = (components args).millis)) := by
  have made : construct? now args = ofComponents? args := construct?_of_several several
  refine ⟨?_, fun finite => ⟨?_, ?_⟩⟩
  · intro infinite
    rw [construct_eq_badDate_iff, made, ofComponents?_of_infinite infinite]
  · rw [ofComponents?_of_allFinite finite] at made
    cases result : (components args).instant? with
    | none => exact .inl (construct_eq_badDate_iff.mpr (made.trans result))
    | some t =>
        have early := Components.millis_of_instant? result
        rw [Components.excess, largestWord] at early
        refine .inr ⟨t, construct_eq_ok_iff.mpr ⟨t, made.trans result, rfl⟩, ?_, ?_⟩
        · omega
        · intro clipped
          rw [largestWord]
          omega
  · intro reach first last
    rw [ofComponents?_of_allFinite finite, reach.instant?_eq] at made
    rcases Instant.exists_ofMillis? first last with ⟨t, counted⟩
    exact ⟨t, construct_eq_ok_iff.mpr ⟨t, made.trans counted, rfl⟩,
      Instant.millis_of_ofMillis? counted⟩

/-- Month -1 and second -1 of the year 99 carry: a day and five milliseconds after the start of the
last day of 1998, less a second. -/
theorem Builtin.construct_date_components_carry :
    ∃ t, Builtin.construct ⟨0, 0⟩
        [.int 99, .int (-1), .int 31, .int 24, .int 0, .int (-1), .int 5] .date = .ok (.date t) ∧
      t.millis = 915148799005 := by
  have given : components [.int 99, .int (-1), .int 31, .int 24, .int 0, .int (-1), .int 5] =
      ⟨99, -1, 31, 24, 0, -1, 5⟩ := by
    simp (disch := decide) only [components, component, List.getElem?_cons_zero,
      List.getElem?_cons_succ, toInt_toNumber_int]
  have finite : AllFinite [.int 99, .int (-1), .int 31, .int 24, .int 0, .int (-1), .int 5] := by
    simp only [AllFinite, List.take_succ_cons, List.take_nil, List.forall_mem_cons]
    exact ⟨rfl, rfl, rfl, rfl, rfl, rfl, rfl, nofun⟩
  have reach : Components.InReach ⟨99, -1, 31, 24, 0, -1, 5⟩ :=
    ⟨by decide, by decide, by decide, by decide, by decide⟩
  have several :
      2 ≤ [Value.int 99, .int (-1), .int 31, .int 24, .int 0, .int (-1), .int 5].length :=
    by decide
  rcases Builtin.construct_date_components ⟨0, 0⟩ several with ⟨-, all⟩
  rcases all finite with ⟨-, valid⟩
  rw [given] at valid
  exact valid reach (by decide) (by decide)

/-- Ten quintillion milliseconds are clipped to a word, and the seconds bring the sum back to the
year 2024. -/
theorem Builtin.construct_date_clipped :
    AllFinite [.int 2024, .int 0, .int 1, .int 0, .int 0, .int (-9223372036854774),
        .int 10000000000000000000] ∧
      Builtin.construct ⟨0, 0⟩ [.int 2024, .int 0, .int 1, .int 0, .int 0,
        .int (-9223372036854774), .int 10000000000000000000] .date =
          .ok (.date ⟨1704067201, 807000000⟩) ∧
      (components [.int 2024, .int 0, .int 1, .int 0, .int 0, .int (-9223372036854774),
        .int 10000000000000000000]).millis ≠ Instant.millis ⟨1704067201, 807000000⟩ := by
  have second : (Value.int (-9223372036854774)).toNumber.toInt = -9223372036854774 := rfl
  have milli : (Value.int 10000000000000000000).toNumber.toInt = 10000000000000000000 := rfl
  have given : components [.int 2024, .int 0, .int 1, .int 0, .int 0, .int (-9223372036854774),
      .int 10000000000000000000] =
        ⟨2024, 0, 1, 0, 0, -9223372036854774, 10000000000000000000⟩ := by
    simp (disch := decide) only [components, component, List.getElem?_cons_zero,
      List.getElem?_cons_succ, toInt_toNumber_int, second, milli]
  have finite : AllFinite [.int 2024, .int 0, .int 1, .int 0, .int 0, .int (-9223372036854774),
      .int 10000000000000000000] := by
    simp only [AllFinite, List.take_succ_cons, List.take_nil, List.forall_mem_cons]
    exact ⟨rfl, rfl, rfl, rfl, rfl, rfl, rfl, nofun⟩
  have made : Components.instant? ⟨2024, 0, 1, 0, 0, -9223372036854774, 10000000000000000000⟩ =
      some ⟨1704067201, 807000000⟩ := by decide
  refine ⟨finite, construct_eq_ok_iff.mpr ⟨_, ?_, rfl⟩, ?_⟩
  · rw [construct?_of_several (by decide), ofComponents?_of_allFinite finite, given]
    exact made
  · rw [given]
    decide

end Stencil
