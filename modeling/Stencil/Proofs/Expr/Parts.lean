import Stencil.Proofs.Expr.Dependence

/-!
# What an expression can tell apart

An expression is made of parts, and `@index` is read exactly by those expressions of which it is a
part.  Two environments that answer alike for the names of an expression are told apart by it at
most through the index of the loop, and not at all if `@index` is no part of it.
-/

namespace Stencil.Expr

/-- The expressions that an expression is immediately made of. -/
def children : Expr → List Expr
  | literal _ | var _ | loopIndex | this => []
  | array items => items
  | member object _ => [object]
  | index object key => [object, key]
  | call callee args => callee :: args
  | new target args => target :: args
  | unary _ operand => [operand]
  | binary _ left right => [left, right]
  | conditional test consequent alternate => [test, consequent, alternate]

/-- An expression is a part of another one, at any depth. -/
inductive Contains : Expr → Expr → Prop where
  | self (e : Expr) : Contains e e
  | child {e child part : Expr} :
      child ∈ e.children → Contains child part → Contains e part

variable {e part child : Expr}

theorem contains_iff_of_ne (distinct : e ≠ part) :
    Contains e part ↔ ∃ child ∈ e.children, Contains child part := by
  constructor
  · rintro (_ | ⟨mem, contains⟩)
    · exact absurd rfl distinct
    · exact ⟨_, mem, contains⟩
  · rintro ⟨child, mem, contains⟩
    exact .child mem contains

theorem sizeOf_lt_of_mem_children (mem : child ∈ e.children) : sizeOf child < sizeOf e := by
  cases e with
  | literal _ | var _ | loopIndex | this => cases mem
  | array items =>
      have smaller : sizeOf child < sizeOf items := List.sizeOf_lt_of_mem mem
      simp only [array.sizeOf_spec]
      omega
  | call first items | new first items =>
      rcases List.mem_cons.mp mem with rfl | mem
      · simp only [call.sizeOf_spec, new.sizeOf_spec]
        omega
      · have smaller := List.sizeOf_lt_of_mem mem
        simp only [call.sizeOf_spec, new.sizeOf_spec]
        omega
  | member | index | unary | binary | conditional =>
      simp only [children, List.mem_cons, List.not_mem_nil, or_false] at mem
      rcases mem with rfl | rfl | rfl <;> simp <;> omega

/-! ## The index of the loop -/

theorem anyMentionsIndex_eq_any (items : List Expr) :
    anyMentionsIndex items = items.any mentionsIndex := by
  induction items with
  | nil => rfl
  | cons item rest ih => rw [anyMentionsIndex, List.any_cons, ih]

theorem mentionsIndex_eq_any (distinct : e ≠ loopIndex) :
    e.mentionsIndex = e.children.any mentionsIndex := by
  cases e with
  | loopIndex => exact absurd rfl distinct
  | _ => simp [mentionsIndex, children, anyMentionsIndex_eq_any, Bool.or_assoc]

/-- An expression mentions `@index` exactly if `@index` is a part of it. -/
theorem mentionsIndex_iff_contains (e : Expr) :
    e.mentionsIndex = true ↔ Contains e loopIndex := by
  by_cases same : e = loopIndex
  · subst same
    exact iff_of_true rfl (.self loopIndex)
  · rw [mentionsIndex_eq_any same, List.any_eq_true, contains_iff_of_ne same]
    exact exists_congr fun child => and_congr_right fun mem => mentionsIndex_iff_contains child
termination_by sizeOf e
decreasing_by exact sizeOf_lt_of_mem_children mem

/-! ## Two environments -/

/-- Environments that answer alike for the names of an expression, at one time, give the expression
the same value or the same fault if they are in turns of the same index, and in any case if `@index`
is no part of the expression. -/
theorem eval_eq_of_same_lookups (e : Expr) {first second : Environment}
    (lookup_eq : ∀ name ∈ e.names, first.lookup name = second.lookup name)
    (now_eq : first.now = second.now) :
    (first.loopIndex = second.loopIndex → e.eval first = e.eval second) ∧
      (¬ Contains e loopIndex → e.eval first = e.eval second) := by
  constructor
  · intro loopIndex_eq
    exact eval_eq_of_agree e ⟨lookup_eq, fun _ => loopIndex_eq, now_eq⟩
  · intro absent
    have blind : ¬ e.mentionsIndex = true := mt (mentionsIndex_iff_contains e).mp absent
    exact eval_eq_of_agree e ⟨lookup_eq, fun asked => absurd asked blind, now_eq⟩

/-- The environments may differ in the loops that they are in, in where a name comes from and in
every other name, and a method may be called. -/
theorem eval_eq_of_same_lookups_loop : ∃ (first second inner : Environment) (e shown : Expr),
    e = .call (.member (.index (.var "rows") (.unary .neg (.var "n"))) "slice") [.var "n"] ∧
      shown = .binary .add e .loopIndex ∧ inner = second.push ⟨"row", .null, .nat 2⟩ ∧
      (∀ name ∈ e.names, first.lookup name = second.lookup name) ∧
      (∀ name ∈ shown.names, first.lookup name = inner.lookup name) ∧
      first.now = second.now ∧ first.now = inner.now ∧
      first.loopIndex = .nat 2 ∧ second.loopIndex = .nat 5 ∧ inner.loopIndex = .nat 2 ∧
      first.lookup "more" = .nat 1 ∧ second.lookup "more" = .undefined ∧
      ¬ Contains e .loopIndex ∧ Contains shown .loopIndex ∧
      e.eval first = e.eval second ∧ shown.eval first = shown.eval inner := by
  let first : Environment := {
    host := .standard []
    now := ⟨0, 0⟩
    context := [("rows", .array [.string "abc"]), ("more", .nat 1)]
    declared := []
    frames := [⟨"n", .nat 0, .nat 2⟩] }
  let second : Environment := {
    host := .standard [("Math", .null)]
    now := ⟨0, 0⟩
    context := []
    declared := [("n", .nat 0), ("rows", .null)]
    frames := [⟨"rows", .array [.string "abc"], .nat 5⟩] }
  let inner := second.push ⟨"row", .null, .nat 2⟩
  let e : Expr := .call (.member (.index (.var "rows") (.unary .neg (.var "n"))) "slice") [.var "n"]
  have lookup_eq (env : Environment) (rows : first.lookup "rows" = env.lookup "rows")
      (n : first.lookup "n" = env.lookup "n") :
      ∀ name ∈ e.names, first.lookup name = env.lookup name :=
    List.forall_mem_cons.mpr ⟨rows, List.forall_mem_cons.mpr ⟨n, List.forall_mem_singleton.mpr n⟩⟩
  have absent : ¬ Contains e loopIndex := by
    rw [← mentionsIndex_iff_contains]
    decide
  have outer := lookup_eq second rfl rfl
  have inside : ∀ name ∈ (binary .add e loopIndex).names, first.lookup name = inner.lookup name :=
    lookup_eq inner rfl rfl
  exact ⟨first, second, inner, e, _, rfl, rfl, rfl, outer, inside, rfl, rfl, rfl, rfl, rfl, rfl,
    rfl, absent, .child (List.mem_cons_of_mem _ List.mem_cons_self) (.self _),
    (eval_eq_of_same_lookups e outer rfl).2 absent,
    (eval_eq_of_same_lookups _ inside rfl).1 rfl⟩

end Stencil.Expr
