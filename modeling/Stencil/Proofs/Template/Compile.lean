import Stencil.Proofs.Expr.Reference
import Stencil.Proofs.Template.Blocks
import Stencil.Template.Basic

/-!
# Compiling a template

A source compiles exactly when it can be cut and its pieces make up a tree.  Everything else in the
template follows from these two.  No expression refers to a reserved word, so resolution never meets
one.
-/

namespace Stencil.Template

/-- The template of a scanned source and its nodes. -/
def ofScanned (source : String) (scanned : Scanned) (nodes : List Node) : Template where
  source := source
  nodes := nodes
  required := requiredNames scanned.globals nodes
  declared := scanned.globals

theorem compile_eq_ok_iff {source : String} {template : Template} :
    compile source = .ok template ↔
      ∃ scanned nodes, scan (normalize source.toList) = .ok scanned ∧
        nodesOf scanned.pieces = .ok nodes ∧ template = ofScanned source scanned nodes := by
  simp only [compile, bind_eq_ok_iff, Except.ok.injEq]
  constructor
  · rintro ⟨scanned, scan_eq, nodes, built, rfl⟩
    exact ⟨scanned, nodes, scan_eq, built, rfl⟩
  · rintro ⟨scanned, nodes, scan_eq, built, rfl⟩
    exact ⟨scanned, scan_eq, nodes, built, rfl⟩

/-- A source that declares nothing compiles when it can be cut and its pieces make up a tree. -/
theorem compile_eq_ok_iff_of_findGlobals? {source : String} {template : Template}
    (noDeclaration : findGlobals? (normalize source.toList) = none) :
    compile source = .ok template ↔
      ∃ pieces nodes, cutFrom none 0 (normalize source.toList) = .ok pieces ∧
        nodesOf pieces = .ok nodes ∧ template = ofScanned source ⟨pieces, []⟩ nodes := by
  rw [compile_eq_ok_iff]
  constructor
  · rintro ⟨⟨pieces, globals⟩, nodes, scan_eq, built, rfl⟩
    rcases scan_eq_ok_iff.mp scan_eq with ⟨_, none_eq, cuts⟩ | ⟨declaration, found, _⟩
    · cases none_eq
      exact ⟨pieces, nodes, cutFrom_eq_ok_iff.mpr cuts, built, rfl⟩
    · rw [noDeclaration] at found
      cases found
  · rintro ⟨pieces, nodes, cut, built, rfl⟩
    have cuts := cutFrom_eq_ok_iff.mp cut
    exact ⟨_, nodes, scan_eq_ok_iff.mpr (.inl ⟨noDeclaration, rfl, cuts⟩), built, rfl⟩

/-! ## Free names -/

theorem isReserved_of_mem_unbound {source : Source} (parsed : IsParsed source)
    {bound : List String} : ∀ name ∈ unbound bound source, Name.isReserved name = false := by
  intro name mem
  have isVariable := Expr.isVariable_of_mem_names parsed (List.mem_filter.mp mem).1
  rw [Name.isVariable, String.ofList_toList, Bool.and_eq_true, Bool.not_eq_true'] at isVariable
  exact isVariable.2

theorem isReserved_of_mem_unbound_of_isInterpolated {source : Source}
    (interpolated : IsInterpolated source) {bound : List String} :
    ∀ name ∈ unbound bound source, Name.isReserved name = false := by
  rw [IsInterpolated] at interpolated
  split at interpolated
  · intro name mem
    rw [unbound, interpolated] at mem
    cases mem
  · exact isReserved_of_mem_unbound interpolated

mutual

theorem isReserved_of_mem_freeNames : (node : Node) → Faithful node → (bound : List String) →
    ∀ name ∈ freeNames bound node, Name.isReserved name = false
  | .text _, _, _ | .index, _, _ => nofun
  | .interpolation _ _, faithful, _ => isReserved_of_mem_unbound_of_isInterpolated faithful.1
  | .ifThen _ body, faithful, bound =>
      List.forall_mem_append.mpr ⟨isReserved_of_mem_unbound faithful.1,
        isReserved_of_mem_freeNamesOfAll body faithful.2 bound⟩
  | .ifElse _ body alternative, faithful, bound =>
      List.forall_mem_append.mpr ⟨List.forall_mem_append.mpr
        ⟨isReserved_of_mem_unbound faithful.1,
          isReserved_of_mem_freeNamesOfAll body faithful.2.1 bound⟩,
        isReserved_of_mem_freeNamesOfAll alternative faithful.2.2 bound⟩
  | .each loopVar _ body, faithful, bound =>
      List.forall_mem_append.mpr ⟨isReserved_of_mem_unbound faithful.1,
        isReserved_of_mem_freeNamesOfAll body faithful.2 (loopVar :: bound)⟩

/-- No free name of nodes is reserved. -/
theorem isReserved_of_mem_freeNamesOfAll : (nodes : List Node) → FaithfulAll nodes →
    (bound : List String) → ∀ name ∈ freeNamesOfAll bound nodes, Name.isReserved name = false
  | [], _, _ => nofun
  | node :: rest, faithful, bound =>
      List.forall_mem_append.mpr ⟨isReserved_of_mem_freeNames node faithful.1 bound,
        isReserved_of_mem_freeNamesOfAll rest faithful.2 bound⟩

end

/-- The free names of a compiled template are required unless somebody else answers for them. -/
theorem requiredNames_eq {nodes : List Node} (faithful : FaithfulAll nodes)
    (declared : List String) :
    requiredNames declared nodes =
      ((freeNamesOfAll [] nodes).filter fun name =>
        !(Host.isGlobal name || declared.contains name)).eraseDups := by
  rw [requiredNames]
  congr 1
  refine List.filter_congr fun name mem => ?_
  rw [isRequired, isReserved_of_mem_freeNamesOfAll nodes faithful [] name mem, Bool.false_or]

/-- The expressions of a compiled template are those that its source spells. -/
theorem faithfulAll_of_compile {source : String} {template : Template}
    (compiled : compile source = .ok template) : FaithfulAll template.nodes := by
  rcases compile_eq_ok_iff.mp compiled with ⟨_, _, _, built, rfl⟩
  exact (nodesOf_eq_ok_iff.mp built).2

/-- The required names of a compiled template are those of resolution. -/
theorem required_of_compile {source : String} {template : Template}
    (compiled : compile source = .ok template) :
    template.required = requiredNames template.declared template.nodes := by
  rcases compile_eq_ok_iff.mp compiled with ⟨_, _, _, _, rfl⟩
  rfl

end Stencil.Template
