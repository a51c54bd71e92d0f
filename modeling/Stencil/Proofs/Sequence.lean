import Mathlib.Data.List.Forall2
import Stencil.Located

/-!
# Computations that may fail, one after the other

A sequence of computations succeeds exactly when every one of them does, and fails with the first
fault.

A computation that reads a text fails at a place in that text.  Computations one after the other
keep this, and what each of them gives can be used for the next one.
-/

namespace Stencil

variable {ε α β : Type}

@[simp]
theorem ok_bind (a : α) (next : α → Except ε β) : (Except.ok a >>= next) = next a :=
  rfl

@[simp]
theorem error_bind (fault : ε) (next : α → Except ε β) :
    (Except.error fault >>= next) = .error fault :=
  rfl

theorem bind_eq_ok_iff {first : Except ε α} {next : α → Except ε β} {b : β} :
    (first >>= next) = .ok b ↔ ∃ a, first = .ok a ∧ next a = .ok b := by
  cases first with
  | error fault => simp
  | ok a => simp

theorem bind_ok_eq_error_iff {first : Except ε α} {convert : α → β} {fault : ε} :
    (first >>= fun a => .ok (convert a)) = .error fault ↔ first = .error fault := by
  cases first with
  | error other => simp
  | ok a => simp

/-- Faults put aside, a sequence of computations gives what its steps give. -/
theorem toOption_bind (first : Except ε α) (next : α → Except ε β) :
    (first >>= next).toOption = first.toOption.bind fun a => (next a).toOption := by
  cases first with
  | error fault => rfl
  | ok a => rfl

theorem toOption_mapM_congr {step stepAlso : α → Except ε β}
    (same : ∀ a, (step a).toOption = (stepAlso a).toOption) (items : List α) :
    (items.mapM step).toOption = (items.mapM stepAlso).toOption := by
  induction items with
  | nil => rfl
  | cons item rest ih => simp only [List.mapM_cons, toOption_bind, same, ih]

/-- A sequence of computations none of which fails gives a result. -/
theorem exists_mapM_eq_ok {step : α → Except ε β} {items : List α}
    (steps : ∀ a ∈ items, ∃ b, step a = .ok b) : ∃ results, items.mapM step = .ok results := by
  induction items with
  | nil => exact ⟨[], rfl⟩
  | cons item rest ih =>
      rcases steps item List.mem_cons_self with ⟨first, step_eq⟩
      rcases ih fun a mem => steps a (List.mem_cons_of_mem item mem) with ⟨others, mapped⟩
      exact ⟨first :: others, by rw [List.mapM_cons, step_eq, mapped]; rfl⟩

/-- What a sequence of computations gives, some item of the list gave. -/
theorem exists_of_mem_mapM {step : α → Except ε β} {items : List α} {results : List β}
    (mapped : items.mapM step = .ok results) {b : β} (mem : b ∈ results) :
    ∃ a ∈ items, step a = .ok b := by
  induction items generalizing results with
  | nil =>
      cases mapped
      cases mem
  | cons item rest ih =>
      rw [List.mapM_cons] at mapped
      rcases bind_eq_ok_iff.mp mapped with ⟨first, step_eq, mapped⟩
      rcases bind_eq_ok_iff.mp mapped with ⟨others, mappedRest, done⟩
      cases done
      rcases List.mem_cons.mp mem with rfl | mem
      · exact ⟨item, List.mem_cons_self, step_eq⟩
      · rcases ih mappedRest mem with ⟨a, aMem, step_eq⟩
        exact ⟨a, List.mem_cons_of_mem item aMem, step_eq⟩

/-- A sequence of computations succeeds with the results of its steps. -/
theorem mapM_eq_ok_iff {step : α → Except ε β} {items : List α} {results : List β} :
    items.mapM step = .ok results ↔ List.Forall₂ (fun a b => step a = .ok b) items results := by
  induction items generalizing results with
  | nil =>
      rw [List.forall₂_nil_left_iff]
      constructor
      · intro mapped
        exact (Except.ok.inj mapped).symm
      · rintro rfl
        rfl
  | cons item rest ih =>
      rw [List.mapM_cons, bind_eq_ok_iff, List.forall₂_cons_left_iff]
      constructor
      · rintro ⟨first, step_eq, mapped⟩
        rcases bind_eq_ok_iff.mp mapped with ⟨others, mappedRest, done⟩
        cases done
        exact ⟨first, others, step_eq, ih.mp mappedRest, rfl⟩
      · rintro ⟨first, others, step_eq, related, rfl⟩
        refine ⟨first, step_eq, ?_⟩
        rw [ih.mpr related]
        rfl

/-- Every step of a sequence of computations that succeeds succeeds. -/
theorem exists_of_mapM_eq_ok {step : α → Except ε β} {items : List α} {results : List β}
    (mapped : items.mapM step = .ok results) {a : α} (mem : a ∈ items) : ∃ b, step a = .ok b := by
  have related := mapM_eq_ok_iff.mp mapped
  clear mapped
  induction related with
  | nil => cases mem
  | cons step_eq _ ih =>
      rcases List.mem_cons.mp mem with rfl | mem
      · exact ⟨_, step_eq⟩
      · exact ih mem

/-- A sequence of computations fails with the first fault among its steps. -/
theorem mapM_eq_error_iff {step : α → Except ε β} {items : List α} {fault : ε} :
    items.mapM step = .error fault ↔ ∃ before item after, items = before ++ item :: after ∧
      (∀ a ∈ before, ∃ b, step a = .ok b) ∧ step item = .error fault := by
  induction items with
  | nil =>
      constructor
      · rintro ⟨⟩
      · rintro ⟨before, item, after, split, -⟩
        exact absurd split (by simp)
  | cons first rest ih =>
      rw [List.mapM_cons]
      cases step_eq : step first with
      | error other =>
          rw [error_bind, Except.error.injEq]
          constructor
          · rintro rfl
            exact ⟨[], first, rest, rfl, by simp, step_eq⟩
          · rintro ⟨before, item, after, split, earlier, failed⟩
            cases before with
            | nil =>
                cases split
                exact Except.error.inj (step_eq.symm.trans failed)
            | cons other before =>
                cases split
                rcases earlier first List.mem_cons_self with ⟨b, ok⟩
                exact absurd (step_eq.symm.trans ok) (by simp)
      | ok b =>
          rw [ok_bind]
          trans rest.mapM step = .error fault
          · cases rest.mapM step <;> simp [pure, Except.pure]
          · rw [ih]
            constructor
            · rintro ⟨before, item, after, rfl, earlier, failed⟩
              exact ⟨first :: before, item, after, rfl,
                List.forall_mem_cons.mpr ⟨⟨b, step_eq⟩, earlier⟩, failed⟩
            · rintro ⟨before, item, after, split, earlier, failed⟩
              cases before with
              | nil =>
                  cases split
                  exact absurd (step_eq.symm.trans failed) (by simp)
              | cons other before =>
                  cases split
                  exact ⟨before, item, after, rfl, (List.forall_mem_cons.mp earlier).2, failed⟩

/-! ## Places of faults -/

variable {limit : Nat} {holds : α → Prop} {keeps : β → Prop}

/-- A fault stands at a place up to a limit, and a result has a property. -/
def FaultsWithin (limit : Nat) (holds : α → Prop) : Except (Located ε) α → Prop
  | .ok a => holds a
  | .error fault => fault.offset ≤ limit

theorem FaultsWithin.bind {first : Except (Located ε) α} {next : α → Except (Located ε) β}
    (within : FaultsWithin limit holds first)
    (further : ∀ a, holds a → FaultsWithin limit keeps (next a)) :
    FaultsWithin limit keeps (first >>= next) := by
  cases first with
  | error fault => exact within
  | ok a => exact further a within

/-- What one step keeps, a sequence of steps keeps. -/
theorem FaultsWithin.foldlM {step : α → β → Except (Located ε) α} {items : List β}
    (steps : ∀ a, holds a → ∀ item ∈ items, FaultsWithin limit holds (step a item))
    {start : α} (holdsStart : holds start) :
    FaultsWithin limit holds (items.foldlM step start) := by
  induction items generalizing start with
  | nil => exact holdsStart
  | cons item rest ih =>
      rw [List.foldlM_cons]
      refine (steps start holdsStart item List.mem_cons_self).bind fun next holdsNext => ?_
      exact ih (fun a holdsA other mem => steps a holdsA other (List.mem_cons_of_mem item mem))
        holdsNext

end Stencil
