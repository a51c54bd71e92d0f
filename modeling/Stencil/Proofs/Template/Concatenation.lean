import Stencil.Proofs.FirstPlaces
import Stencil.Proofs.Template.Declaration
import Stencil.Proofs.Template.Required

/-!
# One template after another

Two sources that compile and declare nothing compile together, if the first one is settled.  The
names that the whole requires are those of its halves, and it renders as its halves do, one after
the other: what else the environment binds for the one half does not matter to the other.
-/

namespace Stencil

/-- The first occurrences in two lists are those in the first list and those of values that are only
in the second one. -/
theorem eraseDups_append_eq (names others : List String) :
    (names ++ others).eraseDups =
      names.eraseDups ++ others.eraseDups.filter fun name => !names.eraseDups.contains name := by
  rw [List.eraseDups_append, List.removeAll, eraseDups_filter]
  congr 1
  apply List.filter_congr
  intro name _
  simp

namespace Template

open Environment

/-! ## Nodes -/

theorem nodesOf_append {pieces others : List Piece} {nodes more : List Node}
    (built : nodesOf pieces = .ok nodes) (alsoBuilt : nodesOf others = .ok more) :
    nodesOf (pieces ++ others) = .ok (nodes ++ more) := by
  rcases nodesOf_eq_ok_iff.mp built with ⟨spelledAs, faithful⟩
  rcases nodesOf_eq_ok_iff.mp alsoBuilt with ⟨alsoSpelledAs, alsoFaithful⟩
  refine nodesOf_eq_ok_iff.mpr ⟨?_, ?_⟩
  · rw [marksOfAll_append, List.map_append, spelledAs, alsoSpelledAs]
  · rw [faithfulAll_iff_forall] at faithful alsoFaithful ⊢
    exact List.forall_mem_append.mpr ⟨faithful, alsoFaithful⟩

theorem nodesOf_text (s : List Char) : nodesOf [.text s] = .ok [.text (String.ofList s)] :=
  rfl

/-- A text at the end of the pieces is the last node. -/
theorem exists_of_nodesOf_append_text {pieces : List Piece} {s : List Char} {nodes : List Node}
    (built : nodesOf (pieces ++ [.text s]) = .ok nodes) :
    ∃ front, nodesOf pieces = .ok front ∧ nodes = front ++ [.text (String.ofList s)] := by
  simp only [nodesOf, List.foldlM_append, List.foldlM_cons, List.foldlM_nil,
    bind_eq_ok_iff] at built
  rcases built with ⟨_, ⟨⟨blocks, before⟩, run, _, added, done⟩, finished⟩
  cases added
  cases done
  cases blocks with
  | nil =>
      refine ⟨before.reverse, by simp [nodesOf, run, Progress.finish], ?_⟩
      simpa [Progress.finish, Progress.add, eq_comm] using finished
  | cons block outer =>
      rcases block with ⟨opening, offset, inside⟩
      cases opening <;> cases finished

/-- A text at the start of the pieces is the first node. -/
theorem exists_of_nodesOf_text_cons {pieces : List Piece} {s : List Char} {nodes : List Node}
    (built : nodesOf (.text s :: pieces) = .ok nodes) :
    ∃ rest, nodesOf pieces = .ok rest ∧ nodes = .text (String.ofList s) :: rest := by
  rcases nodesOf_eq_ok_iff.mp built with ⟨spelledAs, faithful⟩
  cases nodes with
  | nil => cases spelledAs
  | cons node rest =>
      cases node with
      | text t =>
          rcases List.cons.inj spelledAs with ⟨mark_eq, rest_eq⟩
          cases mark_eq
          exact ⟨rest, nodesOf_eq_ok_iff.mpr ⟨rest_eq, faithful.2⟩, rfl⟩
      | _ => cases spelledAs

@[simp]
theorem freeNamesOfAll_append (bound : List String) (nodes others : List Node) :
    freeNamesOfAll bound (nodes ++ others) =
      freeNamesOfAll bound nodes ++ freeNamesOfAll bound others := by
  induction nodes with
  | nil => rfl
  | cons node rest ih => simp only [List.cons_append, freeNamesOfAll, ih, List.append_assoc]

theorem renderNodes_append (env : Environment) (nodes others : List Node) :
    renderNodes env (nodes ++ others) = (do
      let output ← renderNodes env nodes
      let more ← renderNodes env others
      .ok (output ++ more)) := by
  induction nodes with
  | nil =>
      cases rendered : renderNodes env others with
      | error fault => simp only [List.nil_append, renderNodes, rendered, ok_bind, error_bind]
      | ok output =>
          simp only [List.nil_append, renderNodes, rendered, ok_bind, String.empty_append]
  | cons node rest ih =>
      simp only [List.cons_append, renderNodes, ih, bind_assoc, ok_bind, String.append_assoc]

/-- Pieces that are joined make up the nodes of both sequences.  Whether two runs of text at the
seam are one node or two can neither be resolved nor rendered. -/
theorem exists_nodesOf_joinPieces {pieces others : List Piece} {nodes more : List Node}
    (built : nodesOf pieces = .ok nodes) (alsoBuilt : nodesOf others = .ok more) :
    ∃ whole, nodesOf (joinPieces pieces others) = .ok whole ∧
      freeNamesOfAll [] whole = freeNamesOfAll [] (nodes ++ more) ∧
      ∀ env, renderNodes env whole = renderNodes env (nodes ++ more) := by
  unfold joinPieces
  split
  · rename_i s t rest last
    rcases List.getLast?_eq_some_iff.mp last with ⟨front, rfl⟩
    rcases exists_of_nodesOf_append_text built with ⟨frontNodes, frontBuilt, rfl⟩
    rcases exists_of_nodesOf_text_cons alsoBuilt with ⟨restNodes, restBuilt, rfl⟩
    rw [List.dropLast_concat]
    refine ⟨frontNodes ++ .text (String.ofList (s ++ t)) :: restNodes, ?_, ?_, fun env => ?_⟩
    · exact nodesOf_append frontBuilt (nodesOf_append (nodesOf_text (s ++ t)) restBuilt)
    · simp [freeNamesOfAll, freeNames]
    · simp only [List.append_assoc, renderNodes_append, List.singleton_append, renderNodes,
        renderNode, ok_bind, bind_assoc, String.ofList_append, String.append_assoc]
  · exact ⟨_, nodesOf_append built alsoBuilt, rfl, fun _ => rfl⟩

/-! ## Templates -/

theorem normalize_append (s t : List Char) : normalize (s ++ t) = normalize s ++ normalize t :=
  List.filter_append s t

theorem requiredNames_append (declared : List String) (nodes others : List Node) :
    requiredNames declared (nodes ++ others) =
      requiredNames declared nodes ++ (requiredNames declared others).filter fun name =>
        !(requiredNames declared nodes).contains name := by
  simp only [requiredNames, freeNamesOfAll_append, List.filter_append, eraseDups_append_eq]

theorem requiredNames_congr {nodes others : List Node} (declared : List String)
    (same : freeNamesOfAll [] nodes = freeNamesOfAll [] others) :
    requiredNames declared nodes = requiredNames declared others := by
  rw [requiredNames, same, requiredNames]

/-- A source that is cut at another place makes up the same nodes. -/
theorem nodesOf_of_map_mark {pieces others : List Piece} {nodes : List Node}
    (built : nodesOf pieces = .ok nodes)
    (same : pieces.map Piece.mark = others.map Piece.mark) : nodesOf others = .ok nodes := by
  rw [nodesOf_eq_ok_iff] at built ⊢
  exact ⟨built.1.trans same, built.2⟩

/-- A part of a template renders in the environment of the whole as in that of its own. -/
theorem renderNodes_environment {source partSource : String} {whole part : Template}
    (wholeCompiled : compile source = .ok whole) (partCompiled : compile partSource = .ok part)
    (host : Host) (now : Calendar.Instant) (context globals : Context)
    (declared_eq : whole.declared = part.declared)
    (inside : freeNamesOfAll [] part.nodes ⊆ freeNamesOfAll [] whole.nodes) :
    renderNodes (whole.environment host now context globals) part.nodes =
      part.render host now context globals := by
  have wholeSame := sameLoops_openEnvironment wholeCompiled host now context globals
  have partSame := sameLoops_openEnvironment partCompiled host now context globals
  have open_eq : whole.openEnvironment host now context globals =
      part.openEnvironment host now context globals := by
    simp only [openEnvironment, declared_eq]
  calc
    renderNodes (whole.environment host now context globals) part.nodes
      = renderNodes (whole.openEnvironment host now context globals) part.nodes :=
        renderNodes_eq_of_sameLoops part.nodes (whole.environment host now context globals) _
          (wholeSame.mono inside)
    _ = renderNodes (part.openEnvironment host now context globals) part.nodes := by rw [open_eq]
    _ = part.render host now context globals :=
        (renderNodes_eq_of_sameLoops part.nodes (part.environment host now context globals) _
          partSame).symm

/-- Two sources that declare nothing compile together if both compile and the first one leaves no
opening braces without closing ones and does not end in half of a pair.  The whole requires what the
first half requires and then what only the second one does, and renders as the first half and then
the second one, up to the first fault. -/
theorem compile_append {first second : String} {template other : Template}
    (compiled : compile first = .ok template) (alsoCompiled : compile second = .ok other)
    (noDeclaration : findGlobals? (normalize first.toList) = none)
    (alsoNoDeclaration : findGlobals? (normalize second.toList) = none)
    (closed : Closed (normalize first.toList))
    (notHalf : (normalize first.toList).getLast? ≠ some '\x7b') :
    ∃ whole, compile (first ++ second) = .ok whole ∧
      whole.required = template.required ++
        other.required.filter (fun name => !template.required.contains name) ∧
      ∀ host now context globals, whole.render host now context globals = (do
        let output ← template.render host now context globals
        let more ← other.render host now context globals
        .ok (output ++ more)) := by
  have settled : Settled (normalize first.toList) := ⟨closed, notHalf⟩
  have normalize_eq : normalize (first ++ second).toList =
      normalize first.toList ++ normalize second.toList := by
    rw [String.toList_append, normalize_append]
  have noneTogether : findGlobals? (normalize (first ++ second).toList) = none := by
    rw [findGlobals?_eq_none_iff] at noDeclaration alsoNoDeclaration ⊢
    intro declares
    rw [normalize_eq] at declares
    rcases settled.declares_or declares with inFirst | inSecond
    · exact noDeclaration inFirst
    · exact alsoNoDeclaration inSecond
  rcases (compile_eq_ok_iff_of_findGlobals? noDeclaration).mp compiled with
    ⟨pieces, nodes, cut, built, rfl⟩
  rcases (compile_eq_ok_iff_of_findGlobals? alsoNoDeclaration).mp alsoCompiled with
    ⟨others, more, alsoCut, alsoBuilt, rfl⟩
  rcases exists_cutFrom_of_ok alsoCut (0 + (normalize first.toList).length) with
    ⟨moved, movedCut, same⟩
  rcases exists_nodesOf_joinPieces built (nodesOf_of_map_mark alsoBuilt same) with
    ⟨whole, wholeBuilt, names_eq, render_eq⟩
  have wholeCut : cutFrom none 0 (normalize (first ++ second).toList) =
      .ok (joinPieces pieces moved) := by
    rw [normalize_eq, cutFrom_append settled (by simp), cut, ok_bind, movedCut, ok_bind]
  have wholeCompiled := (compile_eq_ok_iff_of_findGlobals? noneTogether).mpr
    ⟨_, whole, wholeCut, wholeBuilt, rfl⟩
  refine ⟨_, wholeCompiled, ?_, fun host now context globals => ?_⟩
  · exact (requiredNames_congr [] names_eq).trans (requiredNames_append [] nodes more)
  · have front := renderNodes_environment wholeCompiled compiled host now context globals rfl
    have back := renderNodes_environment wholeCompiled alsoCompiled host now context globals rfl
    have inside : freeNamesOfAll [] whole = freeNamesOfAll [] nodes ++ freeNamesOfAll [] more :=
      names_eq.trans (freeNamesOfAll_append [] nodes more)
    rw [← front, ← back]
    · exact (render_eq _).trans (renderNodes_append _ nodes more)
    · exact inside ▸ List.subset_append_right _ _
    · exact inside ▸ List.subset_append_left _ _

/-- Two halves that meet in text and share a name. -/
theorem compile_append_shared :
    ∃ template other whole, compile (String.ofList (braced ['x'] ++ ['b'])) = .ok template ∧
      compile (String.ofList (['c'] ++ braced ['a'] ++ braced ['x'])) = .ok other ∧
      template.required = ["x"] ∧ other.required = ["a", "x"] ∧
      compile (String.ofList (braced ['x'] ++ ['b']) ++
        String.ofList (['c'] ++ braced ['a'] ++ braced ['x'])) = .ok whole ∧
      whole.required = ["x", "a"] ∧
      ∀ host now context globals, whole.render host now context globals = (do
        let output ← template.render host now context globals
        let more ← other.render host now context globals
        .ok (output ++ more)) := by
  have untagged : Untagged ['b'] := by
    intro before after opened
    cases opened
  have cuts : Cuts none 0 (braced ['x'] ++ ['b']) _ :=
    .tag ⟨_, rfl, rfl⟩ (by simp) rfl (.plain untagged)
  have alsoCuts : Cuts none 0 (['c'] ++ braced ['a'] ++ braced ['x']) _ :=
    .tag ⟨_, rfl, rfl⟩ (by simp) rfl (.tag ⟨_, rfl, rfl⟩ (by simp) rfl (.plain untagged_nil))
  have parsed : ∀ name ∈ ["a", "x"], Expr.parse name = .ok (.var name) := by
    simp only [List.forall_mem_cons]
    refine ⟨?_, ?_, ?_⟩
    · cbv
    · cbv
    · simp
  have built : nodesOf [.tag 0 (.interpolation ⟨2, ['x']⟩), .text ['b']] =
      .ok [.interpolation ⟨"x", .var "x"⟩ true, .text "b"] :=
    nodesOf_eq_ok_iff.mpr ⟨rfl, ⟨parsed "x" (by simp), rfl⟩, trivial, trivial⟩
  have alsoBuilt : nodesOf [.text ['c'], .tag 1 (.interpolation ⟨3, ['a']⟩),
      .tag 6 (.interpolation ⟨8, ['x']⟩)] =
      .ok [.text "c", .interpolation ⟨"a", .var "a"⟩ true, .interpolation ⟨"x", .var "x"⟩ true] :=
    nodesOf_eq_ok_iff.mpr
      ⟨rfl, trivial, ⟨parsed "a" (by simp), rfl⟩, ⟨parsed "x" (by simp), rfl⟩, trivial⟩
  have noDeclaration :
      findGlobals? (normalize (String.ofList (braced ['x'] ++ ['b'])).toList) = none :=
    rfl
  have alsoNoDeclaration : findGlobals? (normalize
      (String.ofList (['c'] ++ braced ['a'] ++ braced ['x'])).toList) = none :=
    rfl
  have compiled := (compile_eq_ok_iff_of_findGlobals? noDeclaration).mpr
    ⟨_, _, cutFrom_eq_ok_iff.mpr cuts, built, rfl⟩
  have alsoCompiled := (compile_eq_ok_iff_of_findGlobals? alsoNoDeclaration).mpr
    ⟨_, _, cutFrom_eq_ok_iff.mpr alsoCuts, alsoBuilt, rfl⟩
  have closed : Closed (normalize (String.ofList (braced ['x'] ++ ['b'])).toList) :=
    .tag ⟨_, rfl, rfl⟩ (.plain (by decide))
  rcases compile_append compiled alsoCompiled noDeclaration alsoNoDeclaration closed
      (by decide) with
    ⟨whole, wholeCompiled, required_eq, render_eq⟩
  exact ⟨_, _, whole, compiled, alsoCompiled, rfl, rfl, wholeCompiled, required_eq, render_eq⟩

end Template

end Stencil
