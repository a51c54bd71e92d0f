import Mathlib.Data.List.Defs
import Stencil.Proofs.Environment.Lookup
import Stencil.Proofs.Expr.Dependence
import Stencil.Proofs.Template.Compile

/-!
# Required names suffice

A template is rendered in an environment that binds only its required names.  The output is the one
that the whole context would give: what resolution leaves out is never read.  The two walks that
have to stay in step are that of resolution, with the variables of the enclosing loops, and that of
rendering, with the turns of the same loops.
-/

namespace Stencil

namespace Environment

/-- The variables of the enclosing loops, innermost first. -/
def loopVars (env : Environment) : List String :=
  env.frames.map Frame.name

/-- Two environments are inside the same turns of the same loops and agree on what some names stand
for outside of them. -/
structure SameLoops (names : List String) (first second : Environment) : Prop where
  frames_eq : first.frames = second.frames
  now_eq : first.now = second.now
  outer_eq : ∀ name ∈ names, first.outerLookup name = second.outerLookup name

namespace SameLoops

variable {first second : Environment} {names others : List String}

theorem mono (same : SameLoops names first second) (subset : others ⊆ names) :
    SameLoops others first second :=
  ⟨same.frames_eq, same.now_eq, fun name mem => same.outer_eq name (subset mem)⟩

theorem left (same : SameLoops (names ++ others) first second) : SameLoops names first second :=
  same.mono (List.subset_append_left names others)

theorem right (same : SameLoops (names ++ others) first second) :
    SameLoops others first second :=
  same.mono (List.subset_append_right names others)

/-- Another turn of a loop is the same turn in both environments. -/
theorem push (same : SameLoops names first second) (frame : Frame) :
    SameLoops names (first.push frame) (second.push frame) where
  frames_eq := congrArg (frame :: ·) same.frames_eq
  now_eq := same.now_eq
  outer_eq := same.outer_eq

/-- A name that no loop binds needs the outer environments; any other is found in the frames that
both share. -/
theorem lookup_eq (same : SameLoops names first second) {name : String}
    (covered : name ∉ first.loopVars → name ∈ names) :
    first.lookup name = second.lookup name := by
  simp only [lookup, ← same.frames_eq]
  cases found : first.frames.find? (·.name == name) with
  | some frame => rfl
  | none =>
      apply same.outer_eq name (covered _)
      intro bound
      rcases List.mem_map.mp bound with ⟨frame, frameMem, frameName⟩
      have notFound := List.find?_eq_none.mp found frame frameMem
      simp [frameName] at notFound

/-- Agreement on the names of an expression that loops do not bind is agreement on the whole
expression. -/
theorem eval_eq {source : Source}
    (same : SameLoops (Template.unbound first.loopVars source) first second) :
    source.expr.eval first = source.expr.eval second := by
  apply Expr.eval_eq_of_agree
  refine ⟨fun name mem => same.lookup_eq fun free => ?_, fun _ => ?_, same.now_eq⟩
  · exact List.mem_filter.mpr ⟨mem, by simpa using free⟩
  · simp only [loopIndex, same.frames_eq]

end SameLoops

end Environment

namespace Template

open Environment

mutual

/-- Rendering a node reads nothing outside the enclosing loops but the free names of the node. -/
theorem renderNode_eq_of_sameLoops : (node : Node) → (first second : Environment) →
    SameLoops (freeNames first.loopVars node) first second →
    renderNode first node = renderNode second node
  | .text _, _, _, _ => rfl
  | .interpolation _ _, _, _, same => by
      simp only [freeNames] at same
      simp only [renderNode, same.eval_eq]
  | .index, _, _, same => by
      simp only [renderNode, loopIndex, same.frames_eq]
  | .ifThen _ body, first, second, same => by
      simp only [freeNames] at same
      simp only [renderNode, same.left.eval_eq,
        renderNodes_eq_of_sameLoops body first second same.right]
  | .ifElse _ body alternative, first, second, same => by
      simp only [freeNames] at same
      simp only [renderNode, same.left.left.eval_eq,
        renderNodes_eq_of_sameLoops body first second same.left.right,
        renderNodes_eq_of_sameLoops alternative first second same.right]
  | .each loopVar _ body, first, second, same => by
      simp only [freeNames] at same
      have turns_eq (entry : Value × Value) :
          renderNodes (first.push ⟨loopVar, entry.2, entry.1⟩) body =
            renderNodes (second.push ⟨loopVar, entry.2, entry.1⟩) body :=
        renderNodes_eq_of_sameLoops body _ _ (same.right.push _)
      simp only [renderNode, same.left.eval_eq, turns_eq]

/-- Rendering nodes reads nothing outside the enclosing loops but their free names. -/
theorem renderNodes_eq_of_sameLoops : (nodes : List Node) → (first second : Environment) →
    SameLoops (freeNamesOfAll first.loopVars nodes) first second →
    renderNodes first nodes = renderNodes second nodes
  | [], _, _, _ => rfl
  | node :: rest, first, second, same => by
      simp only [freeNamesOfAll] at same
      simp only [renderNodes, renderNode_eq_of_sameLoops node first second same.left,
        renderNodes_eq_of_sameLoops rest first second same.right]

end

/-! ## The whole context -/

/-- The environment in which every name of the context is bound. -/
def openEnvironment (template : Template) (host : Host) (now : Calendar.Instant)
    (context globals : Context) : Environment where
  host := host
  now := now
  context := context.bindings
  declared := template.declared.map fun name => (name, (globals.get? name).getD .undefined)
  frames := []

/-- What a name stands for inside some turns of loops: a loop's variable, innermost first, a
declared global, a global of the host, a variable of the context, or nothing. -/
def meaning (template : Template) (host : Host) (context : Option Context) (globals : Context)
    (frames : List Frame) (name : String) : Value :=
  match frames.find? (·.name == name) with
  | some frame => frame.value
  | none =>
      if name ∈ template.declared then (globals.get? name).getD .undefined
      else if Host.isGlobal name then host.global name
      else (context.bind (·.get? name)).getD .undefined

theorem lookup_openEnvironment (template : Template) (host : Host) (now : Calendar.Instant)
    (context : Option Context) (globals : Context) (frames : List Frame) (name : String) :
    { template.openEnvironment host now (context.getD .empty) globals with frames }.lookup name =
      template.meaning host context globals frames name := by
  have declared_eq : Fields.find? name
      (template.openEnvironment host now (context.getD .empty) globals).declared = _ :=
    Fields.find?_map_names (fun other => (globals.get? other).getD .undefined) name
      template.declared
  have context_eq : Fields.find? name
      (template.openEnvironment host now (context.getD .empty) globals).context =
        context.bind (·.get? name) := by
    cases context <;> rfl
  simp only [lookup, meaning, outerLookup, declared_eq, context_eq]
  cases frames.find? (·.name == name) with
  | some frame => rfl
  | none =>
      by_cases isDeclared : name ∈ template.declared
      · simp only [if_pos isDeclared]
      · simp only [if_neg isDeclared]
        rfl

/-- A required name is answered for neither by the host nor by the template's declaration. -/
theorem not_answered_of_mem_requiredNames {declared : List String} {nodes : List Node}
    {name : String} (required : name ∈ requiredNames declared nodes) :
    Host.isGlobal name = false ∧ name ∉ declared := by
  have kept := (List.mem_filter.mp (List.mem_eraseDups.mp required)).2
  simp only [isRequired, Bool.not_eq_true', Bool.or_eq_false_iff, List.contains_eq_mem,
    decide_eq_false_iff_not] at kept
  exact ⟨kept.1.2, kept.2⟩

/-- A free name that nobody else answers for is required. -/
theorem mem_requiredNames {declared : List String} {nodes : List Node}
    (faithful : FaithfulAll nodes) {name : String} (free : name ∈ freeNamesOfAll [] nodes)
    (notGlobal : Host.isGlobal name = false) (notDeclared : name ∉ declared) :
    name ∈ requiredNames declared nodes := by
  rw [requiredNames_eq faithful]
  apply List.mem_eraseDups.mpr
  exact List.mem_filter.mpr ⟨free, by simp [notGlobal, notDeclared]⟩

/-- Outside all loops, the rendering environment answers for the free names of the template as the
whole context does. -/
theorem sameLoops_openEnvironment {source : String} {template : Template}
    (compiled : compile source = .ok template) (host : Host) (now : Calendar.Instant)
    (context globals : Context) :
    SameLoops (freeNamesOfAll [] template.nodes) (template.environment host now context globals)
      (template.openEnvironment host now context globals) where
  frames_eq := rfl
  now_eq := rfl
  outer_eq name free := by
    have declared_eq := find?_declared_withDeclared
      ((ofHost host now).withContext context template.required) template.declared globals name
    have open_eq :
        Fields.find? name (template.openEnvironment host now context globals).declared = _ :=
      Fields.find?_map_names (fun other => (globals.get? other).getD .undefined) name
        template.declared
    have context_eq :
        Fields.find? name (template.environment host now context globals).context = _ :=
      find?_context_withContext (ofHost host now) context template.required name
    simp only [outerLookup, environment] at declared_eq context_eq ⊢
    rw [declared_eq, open_eq, context_eq]
    by_cases isDeclared : name ∈ template.declared
    · simp only [if_pos isDeclared]
    · simp only [if_neg isDeclared]
      cases isGlobal : Host.isGlobal name with
      | true => rfl
      | false =>
          have isRequired : name ∈ template.required :=
            required_of_compile compiled ▸
              mem_requiredNames (faithfulAll_of_compile compiled) free isGlobal isDeclared
          simp only [if_pos isRequired, ofHost, Fields.find?_nil, Option.or_none]
          rfl

/-- Rendering binds only required names. -/
theorem required_of_mem_context {template : Template} {host : Host} {now : Calendar.Instant}
    {context globals : Context} {field : String × Value}
    (mem : field ∈ (template.environment host now context globals).context) :
    field.1 ∈ template.required := by
  rw [environment, withDeclared, withContext, ofHost, List.append_nil] at mem
  rcases List.mem_filterMap.mp mem with ⟨name, required, kept⟩
  split at kept
  · cases kept
  · rcases Option.map_eq_some_iff.mp kept with ⟨value, _, rfl⟩
    exact required

/-- Rendering binds the required names alone, and gives the output or the fault that the whole
context gives, where a name stands for what the documented order of look-ups says; and no name that
the host or the declaration answers for is ever taken from the context. -/
theorem render_eq_of_whole_context {source : String} {template : Template}
    (compiled : compile source = .ok template) (host : Host) (now : Calendar.Instant)
    (context : Option Context) (globals : Context) :
    template.render host now (context.getD .empty) globals =
        renderNodes (template.openEnvironment host now (context.getD .empty) globals)
          template.nodes ∧
      (∀ frames name,
        { template.openEnvironment host now (context.getD .empty) globals with
            frames }.lookup name =
          template.meaning host context globals frames name) ∧
      (∀ field ∈ (template.environment host now (context.getD .empty) globals).context,
        field.1 ∈ template.required) ∧
      (∀ name ∈ template.required, Host.isGlobal name = false ∧ name ∉ template.declared) := by
  refine ⟨?_, fun frames name => ?_, fun field mem => ?_, fun name required => ?_⟩
  · exact renderNodes_eq_of_sameLoops template.nodes _ _
      (sameLoops_openEnvironment compiled host now (context.getD .empty) globals)
  · exact lookup_openEnvironment template host now context globals frames name
  · exact required_of_mem_context mem
  · exact not_answered_of_mem_requiredNames (required_of_compile compiled ▸ required)

/-- A loop that shadows nothing and reads a declared global.  The context supplies the collection
and, in vain, the global. -/
theorem render_loop_eq_of_whole_context :
    ∃ template, compile (String.ofList (braced "@globals g ".toList ++
        braced "#each x in a".toList ++ braced "x".toList ++ braced "g".toList ++
        braced "/each".toList)) = .ok template ∧
      template.required = ["a"] ∧ template.declared = ["g"] ∧
      template.render (.standard []) ⟨0, 0⟩ (.ofPairs [("g", .string "<"), ("a", .string "b")])
          .empty =
        renderNodes (template.openEnvironment (.standard []) ⟨0, 0⟩
          (.ofPairs [("g", .string "<"), ("a", .string "b")]) .empty) template.nodes := by
  have loop : Tag.read 17 "#each x in a".toList = .ok (.eachOpen "x" ⟨28, ['a']⟩) := by
    change readEach 17 22 " x in a".toList = _
    cbv
  have cuts : Cuts (some 0) 0 (braced "@globals g ".toList ++ braced "#each x in a".toList ++
      braced "x".toList ++ braced "g".toList ++ braced "/each".toList) _ :=
    .skip ⟨_, rfl, rfl⟩ rfl
      (.tag ⟨_, rfl, rfl⟩ (by simp) loop
        (.tag ⟨_, rfl, rfl⟩ (by simp) rfl
          (.tag ⟨_, rfl, rfl⟩ (by simp) rfl
            (.tag ⟨_, rfl, rfl⟩ (by simp) rfl (.plain untagged_nil)))))
  have declared : declaredNames ⟨0, "g ".toList⟩ = .ok ["g"] := by
    cbv
  have built : nodesOf [.tag 15 (.eachOpen "x" ⟨28, ['a']⟩), .tag 31 (.interpolation ⟨33, ['x']⟩),
      .tag 36 (.interpolation ⟨38, ['g']⟩), .tag 41 .eachClose] =
      .ok [.each "x" ⟨"a", .var "a"⟩
        [.interpolation ⟨"x", .var "x"⟩ true, .interpolation ⟨"g", .var "g"⟩ true]] := by
    cbv
  have scan_eq : scan (normalize (String.ofList (braced "@globals g ".toList ++
      braced "#each x in a".toList ++ braced "x".toList ++ braced "g".toList ++
      braced "/each".toList)).toList) =
      .ok ⟨[.tag 15 (.eachOpen "x" ⟨28, ['a']⟩), .tag 31 (.interpolation ⟨33, ['x']⟩),
        .tag 36 (.interpolation ⟨38, ['g']⟩), .tag 41 .eachClose], ["g"]⟩ :=
    scan_eq_ok_iff.mpr (.inr ⟨⟨0, "g ".toList⟩, rfl, declared, cuts⟩)
  have compiled := compile_eq_ok_iff.mpr ⟨_, _, scan_eq, built, rfl⟩
  exact ⟨_, compiled, rfl, rfl, (render_eq_of_whole_context compiled (.standard []) ⟨0, 0⟩
    (some (.ofPairs [("g", .string "<"), ("a", .string "b")])) .empty).1⟩

end Template

end Stencil
