import Stencil.Proofs.Template.Compile
import Stencil.Proofs.Text.Markup

/-!
# What output is made of

The output of a template is a sequence of chunks.  A chunk is a text of the template as it stands,
or it is inert, since every interpolation that compiling makes escapes its value.  The texts of the
template are the characters of its source outside all tags.
-/

namespace Stencil.Template

open Text

/-! ## The texts of a template -/

mutual

/-- The texts in a node, in the order of the source. -/
def texts : Node → List String
  | .text s => [s]
  | .interpolation _ _ | .index => []
  | .ifThen _ body => textsOfAll body
  | .ifElse _ body alternative => textsOfAll body ++ textsOfAll alternative
  | .each _ _ body => textsOfAll body

/-- The texts in nodes, in the order of the source. -/
def textsOfAll : List Node → List String
  | [] => []
  | node :: rest => texts node ++ textsOfAll rest

end

/-- The characters outside all tags. -/
def outsideTags (s : List Char) : List Char :=
  match _hopen : cut? openMark s with
  | none => s
  | some (before, after) =>
      match _hclose : cut? closeMark after with
      | none => s
      | some (_, rest) => before ++ outsideTags rest
termination_by s.length
decreasing_by
  exact FirstTag.length_rest_lt ⟨after, _hopen, _hclose⟩

theorem outsideTags_of_untagged {s : List Char} (untagged : Untagged s) : outsideTags s = s := by
  rw [outsideTags]
  split
  · rfl
  · rename_i before after opened
    split
    · rfl
    · rename_i closed
      rw [untagged before after opened] at closed
      cases closed

theorem outsideTags_of_firstTag {s before inner rest : List Char}
    (first : FirstTag s before inner rest) : outsideTags s = before ++ outsideTags rest := by
  rcases first with ⟨after, opened, closed⟩
  rw [outsideTags]
  split
  · rename_i notOpened
    rw [opened] at notOpened
    cases notOpened
  · rename_i openedAgain
    rw [opened] at openedAgain
    cases openedAgain
    split
    · rename_i notClosed
      rw [closed] at notClosed
      cases notClosed
    · rename_i closedAgain
      rw [closed] at closedAgain
      cases closedAgain
      rfl

/-- The characters of a piece that are text. -/
def Piece.chars : Piece → List Char
  | .text s => s
  | .tag _ _ => []

theorem flatMap_chars_prependText (s : List Char) (pieces : List Piece) :
    (prependText s pieces).flatMap Piece.chars = s ++ pieces.flatMap Piece.chars := by
  unfold prependText
  split <;> simp [Piece.chars]

/-- The texts among the pieces of a text are what stands outside its tags. -/
theorem Cuts.flatMap_chars {skipped : Option Nat} {offset : Nat} {s : List Char}
    {pieces : List Piece} (cuts : Cuts skipped offset s pieces) :
    pieces.flatMap Piece.chars = outsideTags s := by
  induction cuts with
  | plain untagged =>
      rw [flatMap_chars_prependText, outsideTags_of_untagged untagged, List.flatMap_nil,
        List.append_nil]
  | skip first _ _ ih =>
      rw [flatMap_chars_prependText, outsideTags_of_firstTag first, ih]
  | tag first _ _ _ ih =>
      rw [flatMap_chars_prependText, outsideTags_of_firstTag first, List.flatMap_cons, ih]
      rfl

/-- The characters of a mark that are text. -/
def Mark.chars : Mark → List Char
  | .text s => s.toList
  | _ => []

theorem chars_mark (piece : Piece) : piece.mark.chars = piece.chars := by
  cases piece with
  | text s => exact String.toList_ofList
  | tag offset tag => cases tag <;> rfl

mutual

theorem flatMap_chars_marks : (node : Node) →
    (marks node).flatMap Mark.chars = (texts node).flatMap String.toList
  | .text s => by simp [marks, texts, Mark.chars]
  | .interpolation _ _ => rfl
  | .index => rfl
  | .ifThen _ body => by
      simp [marks, texts, Mark.chars, flatMap_chars_marksOfAll body]
  | .ifElse _ body alternative => by
      simp [marks, texts, Mark.chars, flatMap_chars_marksOfAll body,
        flatMap_chars_marksOfAll alternative]
  | .each _ _ body => by
      simp [marks, texts, Mark.chars, flatMap_chars_marksOfAll body]

/-- The texts of nodes are those of the marks that they are written with. -/
theorem flatMap_chars_marksOfAll : (nodes : List Node) →
    (marksOfAll nodes).flatMap Mark.chars = (textsOfAll nodes).flatMap String.toList
  | [] => rfl
  | node :: rest => by
      simp only [marksOfAll, textsOfAll, List.flatMap_append, flatMap_chars_marks node,
        flatMap_chars_marksOfAll rest]

end

/-- The texts of a compiled template are the characters of its source outside all tags. -/
theorem texts_of_compile {source : String} {template : Template}
    (compiled : compile source = .ok template) :
    (textsOfAll template.nodes).flatMap String.toList =
      outsideTags (normalize source.toList) := by
  rcases compile_eq_ok_iff.mp compiled with ⟨scanned, nodes, scan_eq, built, rfl⟩
  rcases nodesOf_eq_ok_iff.mp built with ⟨spelled, _⟩
  rcases cuts_of_scan scan_eq with ⟨skipped, cuts⟩
  calc
    (textsOfAll nodes).flatMap String.toList
      = (scanned.pieces.map Piece.mark).flatMap Mark.chars := by
        rw [← flatMap_chars_marksOfAll, spelled]
    _ = scanned.pieces.flatMap Piece.chars := by
        rw [List.flatMap_map]
        simp only [chars_mark]
    _ = outsideTags (normalize source.toList) := cuts.flatMap_chars

/-! ## Interpolations that escape -/

mutual

/-- Every interpolation in a node escapes its value. -/
def Escapes : Node → Prop
  | .text _ | .index => True
  | .interpolation _ escape => escape = true
  | .ifThen _ body | .each _ _ body => EscapesAll body
  | .ifElse _ body alternative => EscapesAll body ∧ EscapesAll alternative

/-- Every interpolation in nodes escapes its value. -/
def EscapesAll : List Node → Prop
  | [] => True
  | node :: rest => Escapes node ∧ EscapesAll rest

end

mutual

theorem escapes_of_faithful : (node : Node) → Faithful node → Escapes node
  | .text _, _ | .index, _ => trivial
  | .interpolation _ _, faithful => faithful.2
  | .ifThen _ body, faithful => escapesAll_of_faithfulAll body faithful.2
  | .ifElse _ body alternative, faithful =>
      ⟨escapesAll_of_faithfulAll body faithful.2.1,
        escapesAll_of_faithfulAll alternative faithful.2.2⟩
  | .each _ _ body, faithful => escapesAll_of_faithfulAll body faithful.2

theorem escapesAll_of_faithfulAll : (nodes : List Node) → FaithfulAll nodes → EscapesAll nodes
  | [], _ => trivial
  | node :: rest, faithful =>
      ⟨escapes_of_faithful node faithful.1, escapesAll_of_faithfulAll rest faithful.2⟩

end

/-- Compiling makes no interpolation that does not escape, however deep it stands. -/
theorem escapesAll_of_compile {source : String} {template : Template}
    (compiled : compile source = .ok template) : EscapesAll template.nodes :=
  escapesAll_of_faithfulAll template.nodes (faithfulAll_of_compile compiled)

/-! ## Chunks -/

/-- A sequence of chunks, each of them one of some texts or inert. -/
def Assembled (allowed : List String) (s : List Char) : Prop :=
  ∃ chunks : List (List Char), s = chunks.flatten ∧
    ∀ chunk ∈ chunks, (∃ text ∈ allowed, chunk = text.toList) ∨ Inert chunk

namespace Assembled

variable {allowed more : List String} {s t : List Char}

theorem nil : Assembled allowed [] :=
  ⟨[], rfl, by simp⟩

theorem text {text : String} (mem : text ∈ allowed) : Assembled allowed text.toList := by
  refine ⟨[text.toList], by simp, fun chunk chunkMem => .inl ⟨text, mem, ?_⟩⟩
  exact List.mem_singleton.mp chunkMem

theorem inert (harmless : Inert s) : Assembled allowed s := by
  refine ⟨[s], by simp, fun chunk chunkMem => .inr ?_⟩
  rw [List.mem_singleton.mp chunkMem]
  exact harmless

theorem append (first : Assembled allowed s) (second : Assembled allowed t) :
    Assembled allowed (s ++ t) := by
  rcases first with ⟨chunks, rfl, chunksAllowed⟩
  rcases second with ⟨others, rfl, othersAllowed⟩
  refine ⟨chunks ++ others, by simp, fun chunk mem => ?_⟩
  rcases List.mem_append.mp mem with mem | mem
  · exact chunksAllowed chunk mem
  · exact othersAllowed chunk mem

theorem flatten {parts : List (List Char)} (assembled : ∀ part ∈ parts, Assembled allowed part) :
    Assembled allowed parts.flatten := by
  induction parts with
  | nil => exact nil
  | cons part rest ih =>
      rw [List.flatten_cons]
      apply append
      · exact assembled part List.mem_cons_self
      · exact ih fun other mem => assembled other (List.mem_cons_of_mem part mem)

theorem mono (assembled : Assembled allowed s) (subset : allowed ⊆ more) : Assembled more s := by
  rcases assembled with ⟨chunks, rfl, chunksAllowed⟩
  refine ⟨chunks, rfl, fun chunk mem => ?_⟩
  rcases chunksAllowed chunk mem with ⟨text, textMem, rfl⟩ | harmless
  · exact .inl ⟨text, subset textMem, rfl⟩
  · exact .inr harmless

end Assembled

theorem inert_escapeHtml (s : String) : Inert (escapeHtml s).toList := by
  rw [escapeHtml, String.toList_ofList]
  exact inert_escapeMarkup s.toList

mutual

/-- The output of a node whose interpolations escape is made of its texts and of inert chunks. -/
theorem assembled_of_renderNode : (node : Node) → Escapes node →
    ∀ {env : Environment} {out : String}, renderNode env node = .ok out →
    Assembled (texts node) out.toList
  | .text s, _, _, _, rendered => by
      cases rendered
      exact .text (List.mem_singleton.mpr rfl)
  | .interpolation source true, _, _, _, rendered => by
      rcases bind_eq_ok_iff.mp rendered with ⟨value, _, done⟩
      cases done
      exact .inert (inert_escapeHtml value.text)
  | .index, _, env, _, rendered => by
      cases rendered
      exact .inert (inert_escapeHtml env.loopIndex.text)
  | .ifThen condition body, escapes, _, _, rendered => by
      simp only [renderNode] at rendered
      rcases bind_eq_ok_iff.mp rendered with ⟨value, _, rendered⟩
      split at rendered
      · exact assembled_of_renderNodes body escapes rendered
      · cases rendered
        exact .nil
  | .ifElse condition body alternative, escapes, _, _, rendered => by
      simp only [renderNode] at rendered
      rcases bind_eq_ok_iff.mp rendered with ⟨value, _, rendered⟩
      split at rendered
      · exact (assembled_of_renderNodes body escapes.1 rendered).mono
          (List.subset_append_left _ _)
      · exact (assembled_of_renderNodes alternative escapes.2 rendered).mono
          (List.subset_append_right _ _)
  | .each loopVar collection body, escapes, _, _, rendered => by
      simp only [renderNode] at rendered
      rcases bind_eq_ok_iff.mp rendered with ⟨value, _, rendered⟩
      rcases bind_eq_ok_iff.mp rendered with ⟨outputs, turns, done⟩
      cases done
      rw [String.toList_join]
      apply Assembled.flatten
      intro part mem
      rcases List.mem_map.mp mem with ⟨output, outputMem, rfl⟩
      rcases exists_of_mem_mapM turns outputMem with ⟨entry, _, turn⟩
      exact assembled_of_renderNodes body escapes turn

/-- The output of nodes whose interpolations escape is made of their texts and of inert chunks. -/
theorem assembled_of_renderNodes : (nodes : List Node) → EscapesAll nodes →
    ∀ {env : Environment} {out : String}, renderNodes env nodes = .ok out →
    Assembled (textsOfAll nodes) out.toList
  | [], _, _, _, rendered => by
      cases rendered
      exact .nil
  | node :: rest, escapes, _, _, rendered => by
      simp only [renderNodes] at rendered
      rcases bind_eq_ok_iff.mp rendered with ⟨output, first, rendered⟩
      rcases bind_eq_ok_iff.mp rendered with ⟨others, second, done⟩
      cases done
      rw [String.toList_append]
      apply Assembled.append
      · exact (assembled_of_renderNode node escapes.1 first).mono (List.subset_append_left _ _)
      · exact (assembled_of_renderNodes rest escapes.2 second).mono (List.subset_append_right _ _)

end

/-- Every interpolation of a compiled template escapes.  Whatever the template is rendered with, its
output is a sequence of chunks that are texts of the template or inert; and the texts of the
template are what its source has outside all tags. -/
theorem assembled_of_render {source : String} {template : Template}
    (compiled : compile source = .ok template) (host : Host) (now : Calendar.Instant)
    (context globals : Context) {out : String}
    (rendered : template.render host now context globals = .ok out) :
    EscapesAll template.nodes ∧
      (∃ chunks : List (List Char), out.toList = chunks.flatten ∧
        ∀ chunk ∈ chunks, (∃ text ∈ textsOfAll template.nodes, chunk = text.toList) ∨
          Inert chunk) ∧
      (textsOfAll template.nodes).flatMap String.toList =
        outsideTags (normalize source.toList) := by
  have escapes := escapesAll_of_compile compiled
  refine ⟨escapes, ?_, ?_⟩
  · exact assembled_of_renderNodes template.nodes escapes rendered
  · exact texts_of_compile compiled

/-- A key and a value that are markup come out inert, the text between them as it stands. -/
theorem assembled_of_render_loop :
    ∃ template, compile (String.ofList (braced "#each x in a".toList ++ braced "@index".toList ++
        "<b>".toList ++ braced "x".toList ++ braced "/each".toList)) = .ok template ∧
      textsOfAll template.nodes = ["<b>"] ∧
      template.render (.standard []) ⟨0, 0⟩ (.ofPairs [("a", .object [("<k>", .string "&")])])
          .empty =
        .ok "&lt;k&gt;<b>&amp;" ∧
      ∃ chunks : List (List Char), "&lt;k&gt;<b>&amp;".toList = chunks.flatten ∧
        ∀ chunk ∈ chunks, (∃ text ∈ textsOfAll template.nodes, chunk = text.toList) ∨
          Inert chunk := by
  have loop : Tag.read 2 "#each x in a".toList = .ok (.eachOpen "x" ⟨13, ['a']⟩) := by
    change readEach 2 7 " x in a".toList = _
    cbv
  have cuts : Cuts none 0 (braced "#each x in a".toList ++ braced "@index".toList ++
      "<b>".toList ++ braced "x".toList ++ braced "/each".toList) _ :=
    .tag ⟨_, rfl, rfl⟩ (by simp) loop
      (.tag ⟨_, rfl, rfl⟩ (by simp) rfl
        (.tag ⟨_, rfl, rfl⟩ (by simp) rfl
          (.tag ⟨_, rfl, rfl⟩ (by simp) rfl (.plain untagged_nil))))
  have scan_eq : scan (normalize (String.ofList (braced "#each x in a".toList ++
      braced "@index".toList ++ "<b>".toList ++ braced "x".toList ++
      braced "/each".toList)).toList) =
      .ok ⟨[.tag 0 (.eachOpen "x" ⟨13, ['a']⟩), .tag 16 .index, .text "<b>".toList,
        .tag 29 (.interpolation ⟨31, ['x']⟩), .tag 34 .eachClose], []⟩ :=
    scan_eq_ok_iff.mpr (.inl ⟨rfl, rfl, cuts⟩)
  have built : nodesOf [.tag 0 (.eachOpen "x" ⟨13, ['a']⟩), .tag 16 .index, .text "<b>".toList,
      .tag 29 (.interpolation ⟨31, ['x']⟩), .tag 34 .eachClose] =
      .ok [.each "x" ⟨"a", .var "a"⟩
        [.index, .text "<b>", .interpolation ⟨"x", .var "x"⟩ true]] := by
    cbv
  have compiled := compile_eq_ok_iff.mpr ⟨_, _, scan_eq, built, rfl⟩
  exact ⟨_, compiled, rfl, rfl, (assembled_of_render compiled (.standard []) ⟨0, 0⟩
    (.ofPairs [("a", .object [("<k>", .string "&")])]) .empty rfl).2.1⟩

end Stencil.Template
