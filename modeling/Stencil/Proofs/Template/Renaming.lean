import Stencil.Proofs.Environment.Lookup
import Stencil.Proofs.Expr.Renaming
import Stencil.Proofs.Template.Compile

/-!
# Other loop variables

The variable of a loop can be replaced by any name that does not occur in the body of the loop: the
template requires the same names, and renders to the same output whenever it renders at all.  What
the new name stands for outside the loop, for the host, the declaration or the context, is hidden
in the body, where it was not asked for.
-/

namespace Stencil

/-- An expression with other names, and the text that it was parsed from. -/
def Source.mapNames (f : String → String) (source : Source) : Source :=
  ⟨source.text, source.expr.mapNames f⟩

namespace Template

open Environment

/-! ## Names in nodes -/

/-- A name in place of another one. -/
def replacing (x y name : String) : String :=
  if name = x then y else name

/-- Other names for all but one, as inside a loop, where the variable of the loop is meant. -/
def keeping (f : String → String) (kept name : String) : String :=
  if name = kept then name else f name

mutual

/-- A node with other names outside the loops that bind them.  The collection of a loop is outside
the loop. -/
def renameFree (f : String → String) : Node → Node
  | .text s => .text s
  | .interpolation source escape => .interpolation (source.mapNames f) escape
  | .index => .index
  | .ifThen condition body => .ifThen (condition.mapNames f) (renameFreeAll f body)
  | .ifElse condition body alternative =>
      .ifElse (condition.mapNames f) (renameFreeAll f body) (renameFreeAll f alternative)
  | .each loopVar collection body =>
      .each loopVar (collection.mapNames f) (renameFreeAll (keeping f loopVar) body)

/-- Nodes with other names outside the loops that bind them. -/
def renameFreeAll (f : String → String) : List Node → List Node
  | [] => []
  | node :: rest => renameFree f node :: renameFreeAll f rest

end

mutual

/-- The names in a node: those in its expressions and those of its loop variables. -/
def mentioned : Node → List String
  | .text _ | .index => []
  | .interpolation source _ => source.expr.names
  | .ifThen condition body => condition.expr.names ++ mentionedInAll body
  | .ifElse condition body alternative =>
      condition.expr.names ++ mentionedInAll body ++ mentionedInAll alternative
  | .each loopVar collection body =>
      loopVar :: (collection.expr.names ++ mentionedInAll body)

/-- The names in nodes. -/
def mentionedInAll : List Node → List String
  | [] => []
  | node :: rest => mentioned node ++ mentionedInAll rest

end

/-- A loop, anywhere in a tree, has another variable that does not occur in its body. -/
inductive LoopRenamed (y : String) : List Node → List Node → Prop where
  | here {x : String} {collection : Source} {body : List Node} (rest : List Node) :
      y ∉ mentionedInAll body →
      LoopRenamed y (.each x collection body :: rest)
        (.each y collection (renameFreeAll (replacing x y) body) :: rest)
  | ifThen (condition : Source) {body renamed : List Node} (rest : List Node) :
      LoopRenamed y body renamed →
      LoopRenamed y (.ifThen condition body :: rest) (.ifThen condition renamed :: rest)
  | ifElse (condition : Source) {body renamed : List Node} (alternative rest : List Node) :
      LoopRenamed y body renamed →
      LoopRenamed y (.ifElse condition body alternative :: rest)
        (.ifElse condition renamed alternative :: rest)
  | alternative (condition : Source) (body : List Node) {alternative renamed : List Node}
      (rest : List Node) :
      LoopRenamed y alternative renamed →
      LoopRenamed y (.ifElse condition body alternative :: rest)
        (.ifElse condition body renamed :: rest)
  | each (loopVar : String) (collection : Source) {body renamed : List Node} (rest : List Node) :
      LoopRenamed y body renamed →
      LoopRenamed y (.each loopVar collection body :: rest)
        (.each loopVar collection renamed :: rest)
  | behind (node : Node) {rest renamed : List Node} :
      LoopRenamed y rest renamed → LoopRenamed y (node :: rest) (node :: renamed)

/-- Names stay, except that some of them are replaced by a fresh one. -/
def Moves (fresh : String) (f : String → String) : Prop :=
  ∀ name, f name = name ∨ f name = fresh

variable {fresh x y : String} {f : String → String}

theorem moves_replacing (x y : String) : Moves y (replacing x y) := by
  intro name
  by_cases equal : name = x
  · exact .inr (if_pos equal)
  · exact .inl (if_neg equal)

theorem Moves.keeping (moves : Moves fresh f) (kept : String) : Moves fresh (keeping f kept) := by
  intro name
  by_cases equal : name = kept
  · exact .inl (if_pos equal)
  · simpa only [Template.keeping, if_neg equal] using moves name

/-- No name but the kept one is replaced by it. -/
theorem Moves.ne_kept (moves : Moves fresh f) {kept name : String} (notFresh : kept ≠ fresh)
    (distinct : name ≠ kept) : kept ≠ f name := by
  intro equal
  rcases moves name with same | moved
  · exact distinct (same ▸ equal.symm)
  · exact notFresh (equal.trans moved)

/-! ## Required names -/

/-- The loops around a node bind the names of the node where the loops around its form with other
names bind the new ones. -/
structure Binds (fresh : String) (f : String → String) (bound others : List String) : Prop where
  moves : Moves fresh f
  mem_iff : ∀ name, name ≠ fresh → (f name ∈ others ↔ name ∈ bound)
  free_eq : ∀ name, name ≠ fresh → name ∉ bound → f name = name

namespace Binds

variable {bound others : List String}

/-- A loop whose variable stays. -/
theorem push (binds : Binds fresh f bound others) {loopVar : String}
    (notFresh : loopVar ≠ fresh) :
    Binds fresh (keeping f loopVar) (loopVar :: bound) (loopVar :: others) where
  moves := binds.moves.keeping loopVar
  mem_iff name isOther := by
    by_cases equal : name = loopVar
    · simp [keeping, equal]
    · have distinct := (binds.moves.ne_kept notFresh equal).symm
      simp [keeping, equal, distinct, binds.mem_iff name isOther]
  free_eq name isOther free := by
    have distinct := List.ne_of_not_mem_cons free
    have freeOutside := List.not_mem_of_not_mem_cons free
    simp only [keeping, if_neg distinct, binds.free_eq name isOther freeOutside]

/-- A loop whose variable is replaced. -/
theorem enter (x y : String) (bound : List String) :
    Binds y (replacing x y) (x :: bound) (y :: bound) where
  moves := moves_replacing x y
  mem_iff name isOther := by
    by_cases equal : name = x
    · simp [replacing, equal]
    · simp [replacing, equal, isOther]
  free_eq name _ free := if_neg (List.ne_of_not_mem_cons free)

/-- The names that no loop binds are the same ones. -/
theorem filter_map_eq (binds : Binds fresh f bound others) {names : List String}
    (absent : fresh ∉ names) :
    (names.map f).filter (fun name => !others.contains name) =
      names.filter fun name => !bound.contains name := by
  induction names with
  | nil => rfl
  | cons name rest ih =>
      have isOther : name ≠ fresh := (List.ne_of_not_mem_cons absent).symm
      have rest_eq := ih (List.not_mem_of_not_mem_cons absent)
      rw [List.map_cons]
      by_cases isBound : name ∈ bound
      · have alsoBound := (binds.mem_iff name isOther).mpr isBound
        rw [List.filter_cons_of_neg (by simpa using alsoBound),
          List.filter_cons_of_neg (by simpa using isBound), rest_eq]
      · have alsoFree := mt (binds.mem_iff name isOther).mp isBound
        rw [List.filter_cons_of_pos (by simpa using alsoFree),
          List.filter_cons_of_pos (by simpa using isBound), rest_eq,
          binds.free_eq name isOther isBound]

theorem unbound_eq (binds : Binds fresh f bound others) {source : Source}
    (absent : fresh ∉ source.expr.names) :
    unbound others (source.mapNames f) = unbound bound source := by
  simp only [unbound, Source.mapNames, Expr.names_mapNames]
  exact binds.filter_map_eq absent

end Binds

mutual

theorem freeNames_renameFree : (node : Node) → {f : String → String} →
    {bound others : List String} → Binds fresh f bound others → fresh ∉ mentioned node →
    freeNames others (renameFree f node) = freeNames bound node
  | .text _, _, _, _, _, _ | .index, _, _, _, _, _ => rfl
  | .interpolation _ _, _, _, _, binds, absent => binds.unbound_eq absent
  | .ifThen condition body, _, _, _, binds, absent => by
      simp only [mentioned, List.mem_append, not_or] at absent
      simp only [renameFree, freeNames, binds.unbound_eq absent.1,
        freeNamesOfAll_renameFreeAll body binds absent.2]
  | .ifElse condition body alternative, _, _, _, binds, absent => by
      simp only [mentioned, List.mem_append, not_or] at absent
      simp only [renameFree, freeNames, binds.unbound_eq absent.1.1,
        freeNamesOfAll_renameFreeAll body binds absent.1.2,
        freeNamesOfAll_renameFreeAll alternative binds absent.2]
  | .each loopVar collection body, _, _, _, binds, absent => by
      simp only [mentioned, List.mem_cons, List.mem_append, not_or] at absent
      simp only [renameFree, freeNames, binds.unbound_eq absent.2.1,
        freeNamesOfAll_renameFreeAll body (binds.push (Ne.symm absent.1)) absent.2.2]

theorem freeNamesOfAll_renameFreeAll : (nodes : List Node) → {f : String → String} →
    {bound others : List String} → Binds fresh f bound others → fresh ∉ mentionedInAll nodes →
    freeNamesOfAll others (renameFreeAll f nodes) = freeNamesOfAll bound nodes
  | [], _, _, _, _, _ => rfl
  | node :: rest, _, _, _, binds, absent => by
      simp only [mentionedInAll, List.mem_append, not_or] at absent
      simp only [renameFreeAll, freeNamesOfAll, freeNames_renameFree node binds absent.1,
        freeNamesOfAll_renameFreeAll rest binds absent.2]

end

/-- A tree with another loop variable asks for the same names. -/
theorem LoopRenamed.freeNamesOfAll_eq {nodes others : List Node}
    (renamed : LoopRenamed y nodes others) (bound : List String) :
    freeNamesOfAll bound others = freeNamesOfAll bound nodes := by
  induction renamed generalizing bound with
  | @here x collection body _ absent =>
      simp only [freeNamesOfAll, freeNames,
        freeNamesOfAll_renameFreeAll body (Binds.enter x y bound) absent]
  | ifThen _ _ _ ih => simp only [freeNamesOfAll, freeNames, ih]
  | ifElse _ _ _ _ ih => simp only [freeNamesOfAll, freeNames, ih]
  | alternative _ _ _ _ ih => simp only [freeNamesOfAll, freeNames, ih]
  | each _ _ _ _ ih => simp only [freeNamesOfAll, freeNames, ih]
  | behind _ _ ih => simp only [freeNamesOfAll, ih]

/-! ## Output -/

/-- What a name stands for in one environment, the new name stands for in another. -/
structure Renaming (fresh : String) (f : String → String) (first second : Environment) :
    Prop where
  moves : Moves fresh f
  lookup_eq : ∀ name, name ≠ fresh → first.lookup name = second.lookup (f name)
  loopIndex_eq : first.loopIndex = second.loopIndex
  now_eq : first.now = second.now

namespace Renaming

variable {first second : Environment}

/-- A turn of a loop whose variable stays. -/
theorem push (same : Renaming fresh f first second) {loopVar : String}
    (notFresh : loopVar ≠ fresh) (value index : Value) :
    Renaming fresh (keeping f loopVar) (first.push ⟨loopVar, value, index⟩)
      (second.push ⟨loopVar, value, index⟩) where
  moves := same.moves.keeping loopVar
  lookup_eq name isOther := by
    by_cases equal : name = loopVar
    · simp [keeping, equal]
    · rw [keeping, if_neg equal, lookup_push_of_ne first value index (Ne.symm equal),
        lookup_push_of_ne second value index (same.moves.ne_kept notFresh equal),
        same.lookup_eq name isOther]
  loopIndex_eq := rfl
  now_eq := same.now_eq

/-- A turn of a loop whose variable is replaced. -/
theorem enter (env : Environment) (x y : String) (value index : Value) :
    Renaming y (replacing x y) (env.push ⟨x, value, index⟩) (env.push ⟨y, value, index⟩) where
  moves := moves_replacing x y
  lookup_eq name isOther := by
    by_cases equal : name = x
    · simp [replacing, equal]
    · rw [replacing, if_neg equal, lookup_push_of_ne env value index (Ne.symm equal),
        lookup_push_of_ne env value index (Ne.symm isOther)]
  loopIndex_eq := rfl
  now_eq := rfl

theorem toOption_eval_eq (same : Renaming fresh f first second) {source : Source}
    (absent : fresh ∉ source.expr.names) :
    (source.expr.eval first).toOption = ((source.mapNames f).expr.eval second).toOption := by
  apply Expr.toOption_eval_mapNames
  refine ⟨fun name mem => same.lookup_eq name ?_, same.loopIndex_eq, same.now_eq⟩
  rintro rfl
  exact absent mem

end Renaming

/-! The output of a block depends on its parts only through their values and outputs. -/

section Blocks

variable {first second : Environment} {source other : Source} {body renamed : List Node}

theorem toOption_renderNode_ifThen_congr
    (condition_eq : (source.expr.eval first).toOption = (other.expr.eval second).toOption)
    (body_eq : (renderNodes first body).toOption = (renderNodes second renamed).toOption) :
    (renderNode first (.ifThen source body)).toOption =
      (renderNode second (.ifThen other renamed)).toOption := by
  simp only [renderNode, toOption_bind, condition_eq]
  refine congrArg (Option.bind _) (funext fun value => ?_)
  split
  · exact body_eq
  · rfl

theorem toOption_renderNode_ifElse_congr {alternative renamedAlternative : List Node}
    (condition_eq : (source.expr.eval first).toOption = (other.expr.eval second).toOption)
    (body_eq : (renderNodes first body).toOption = (renderNodes second renamed).toOption)
    (alternative_eq : (renderNodes first alternative).toOption =
      (renderNodes second renamedAlternative).toOption) :
    (renderNode first (.ifElse source body alternative)).toOption =
      (renderNode second (.ifElse other renamed renamedAlternative)).toOption := by
  simp only [renderNode, toOption_bind, condition_eq]
  refine congrArg (Option.bind _) (funext fun value => ?_)
  split
  · exact body_eq
  · exact alternative_eq

theorem toOption_renderNode_each_congr {x y : String}
    (collection_eq : (source.expr.eval first).toOption = (other.expr.eval second).toOption)
    (turns_eq : ∀ value index, (renderNodes (first.push ⟨x, value, index⟩) body).toOption =
      (renderNodes (second.push ⟨y, value, index⟩) renamed).toOption) :
    (renderNode first (.each x source body)).toOption =
      (renderNode second (.each y other renamed)).toOption := by
  simp only [renderNode, toOption_bind, collection_eq]
  refine congrArg (Option.bind _) (funext fun value => ?_)
  refine congrArg (Option.bind · _) (toOption_mapM_congr (fun entry => ?_) _)
  exact turns_eq entry.2 entry.1

end Blocks

mutual

/-- A node and its form with other names have the same output or both fail. -/
theorem toOption_renderNode_renameFree : (node : Node) → {f : String → String} →
    {first second : Environment} → Renaming fresh f first second → fresh ∉ mentioned node →
    (renderNode first node).toOption = (renderNode second (renameFree f node)).toOption
  | .text _, _, _, _, _, _ => rfl
  | .interpolation _ _, _, _, _, same, absent => by
      simp only [renameFree, renderNode, toOption_bind, same.toOption_eval_eq absent]
  | .index, _, _, _, same, _ => by
      simp only [renameFree, renderNode, same.loopIndex_eq]
  | .ifThen condition body, _, _, _, same, absent => by
      simp only [mentioned, List.mem_append, not_or] at absent
      exact toOption_renderNode_ifThen_congr (same.toOption_eval_eq absent.1)
        (toOption_renderNodes_renameFreeAll body same absent.2)
  | .ifElse condition body alternative, _, _, _, same, absent => by
      simp only [mentioned, List.mem_append, not_or] at absent
      exact toOption_renderNode_ifElse_congr (same.toOption_eval_eq absent.1.1)
        (toOption_renderNodes_renameFreeAll body same absent.1.2)
        (toOption_renderNodes_renameFreeAll alternative same absent.2)
  | .each loopVar collection body, _, _, _, same, absent => by
      simp only [mentioned, List.mem_cons, List.mem_append, not_or] at absent
      exact toOption_renderNode_each_congr (same.toOption_eval_eq absent.2.1) fun value index =>
        toOption_renderNodes_renameFreeAll body
          (same.push (Ne.symm absent.1) value index) absent.2.2

/-- Nodes and their forms with other names have the same output or both fail. -/
theorem toOption_renderNodes_renameFreeAll : (nodes : List Node) → {f : String → String} →
    {first second : Environment} → Renaming fresh f first second →
    fresh ∉ mentionedInAll nodes →
    (renderNodes first nodes).toOption = (renderNodes second (renameFreeAll f nodes)).toOption
  | [], _, _, _, _, _ => rfl
  | node :: rest, _, _, _, same, absent => by
      simp only [mentionedInAll, List.mem_append, not_or] at absent
      simp only [renameFreeAll, renderNodes, toOption_bind,
        toOption_renderNode_renameFree node same absent.1,
        toOption_renderNodes_renameFreeAll rest same absent.2]

end

theorem toOption_renderNodes_cons_congr {env : Environment} {node other : Node} (rest : List Node)
    (node_eq : (renderNode env node).toOption = (renderNode env other).toOption) :
    (renderNodes env (node :: rest)).toOption = (renderNodes env (other :: rest)).toOption := by
  simp only [renderNodes, toOption_bind, node_eq]

/-- A tree with another loop variable has the same output or fails as well. -/
theorem LoopRenamed.toOption_renderNodes_eq {nodes others : List Node}
    (renamed : LoopRenamed y nodes others) (env : Environment) :
    (renderNodes env nodes).toOption = (renderNodes env others).toOption := by
  induction renamed generalizing env with
  | @here x collection body rest absent =>
      apply toOption_renderNodes_cons_congr rest
      exact toOption_renderNode_each_congr rfl fun value index =>
        toOption_renderNodes_renameFreeAll body (.enter env x y value index) absent
  | ifThen _ rest _ ih =>
      apply toOption_renderNodes_cons_congr rest
      exact toOption_renderNode_ifThen_congr rfl (ih env)
  | ifElse _ _ rest _ ih =>
      apply toOption_renderNodes_cons_congr rest
      exact toOption_renderNode_ifElse_congr rfl (ih env) rfl
  | alternative _ _ rest _ ih =>
      apply toOption_renderNodes_cons_congr rest
      exact toOption_renderNode_ifElse_congr rfl rfl (ih env)
  | each _ _ rest _ ih =>
      apply toOption_renderNodes_cons_congr rest
      exact toOption_renderNode_each_congr rfl fun value index => ih _
  | behind _ _ ih => simp only [renderNodes, toOption_bind, ih]

/-! ## Main result -/

/-- A loop of a compiled template takes any name that does not occur in its body as its variable:
the template requires the same names in the same order, and gives the same output or fails as
well. -/
theorem render_of_loopRenamed {source : String} {template : Template} {nodes : List Node}
    (compiled : compile source = .ok template) (renamed : LoopRenamed y template.nodes nodes) :
    requiredNames template.declared nodes = template.required ∧
      ∀ host now context globals,
        (render { template with nodes } host now context globals).toOption =
          (template.render host now context globals).toOption := by
  constructor
  · rw [required_of_compile compiled, requiredNames, renamed.freeNamesOfAll_eq [], requiredNames]
  · intro host now context globals
    exact (renamed.toOption_renderNodes_eq (template.environment host now context globals)).symm

/-- A loop takes the name of its collection.  The inner loop over the same variable keeps it, and
only its collection changes. -/
theorem render_of_loopRenamed_nested :
    ∃ template nodes, compile (String.ofList (braced "#each x in a".toList ++
        braced "#each x in x".toList ++ braced ['x'] ++ braced "/each".toList ++
        braced ['x'] ++ braced "/each".toList)) = .ok template ∧
      template.nodes = [.each "x" ⟨"a", .var "a"⟩ [
        .each "x" ⟨"x", .var "x"⟩ [.interpolation ⟨"x", .var "x"⟩ true],
        .interpolation ⟨"x", .var "x"⟩ true]] ∧
      nodes = [.each "a" ⟨"a", .var "a"⟩ [
        .each "x" ⟨"x", .var "a"⟩ [.interpolation ⟨"x", .var "x"⟩ true],
        .interpolation ⟨"x", .var "a"⟩ true]] ∧
      LoopRenamed "a" template.nodes nodes ∧
      requiredNames template.declared nodes = template.required ∧
      ∀ host now context globals,
        (render { template with nodes } host now context globals).toOption =
          (template.render host now context globals).toOption := by
  have outer : Tag.read 2 "#each x in a".toList = .ok (.eachOpen "x" ⟨13, ['a']⟩) := by
    change readEach 2 7 " x in a".toList = _
    cbv
  have inner : Tag.read 18 "#each x in x".toList = .ok (.eachOpen "x" ⟨29, ['x']⟩) := by
    change readEach 18 23 " x in x".toList = _
    cbv
  have cuts : Cuts none 0 (braced "#each x in a".toList ++ braced "#each x in x".toList ++
      braced ['x'] ++ braced "/each".toList ++ braced ['x'] ++ braced "/each".toList) _ :=
    .tag ⟨_, rfl, rfl⟩ (by simp) outer
      (.tag ⟨_, rfl, rfl⟩ (by simp) inner
        (.tag ⟨_, rfl, rfl⟩ (by simp) rfl
          (.tag ⟨_, rfl, rfl⟩ (by simp) rfl
            (.tag ⟨_, rfl, rfl⟩ (by simp) rfl
              (.tag ⟨_, rfl, rfl⟩ (by simp) rfl (.plain untagged_nil))))))
  have built : nodesOf [.tag 0 (.eachOpen "x" ⟨13, ['a']⟩), .tag 16 (.eachOpen "x" ⟨29, ['x']⟩),
      .tag 32 (.interpolation ⟨34, ['x']⟩), .tag 37 .eachClose,
      .tag 46 (.interpolation ⟨48, ['x']⟩), .tag 51 .eachClose] =
      .ok [.each "x" ⟨"a", .var "a"⟩ [
        .each "x" ⟨"x", .var "x"⟩ [.interpolation ⟨"x", .var "x"⟩ true],
        .interpolation ⟨"x", .var "x"⟩ true]] := by
    cbv
  have scan_eq : scan (normalize (String.ofList (braced "#each x in a".toList ++
      braced "#each x in x".toList ++ braced ['x'] ++ braced "/each".toList ++
      braced ['x'] ++ braced "/each".toList)).toList) = .ok ⟨_, []⟩ :=
    scan_eq_ok_iff.mpr (.inl ⟨rfl, rfl, cuts⟩)
  have compiled := compile_eq_ok_iff.mpr ⟨_, _, scan_eq, built, rfl⟩
  have renamed : LoopRenamed "a" [.each "x" ⟨"a", .var "a"⟩ [
      .each "x" ⟨"x", .var "x"⟩ [.interpolation ⟨"x", .var "x"⟩ true],
      .interpolation ⟨"x", .var "x"⟩ true]] _ :=
    .here [] (by simp [mentionedInAll, mentioned, Expr.names])
  exact ⟨_, _, compiled, rfl, rfl, renamed, render_of_loopRenamed compiled renamed⟩

end Template

end Stencil
