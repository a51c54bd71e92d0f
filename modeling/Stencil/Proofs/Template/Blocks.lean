import Stencil.Proofs.Template.Pieces
import Stencil.Template.Node

/-!
# The block structure of templates

Places put aside, a template is a word over marks, and its blocks are balanced like parentheses of
two kinds.  Building the tree with a stack of open blocks accepts the balanced words whose
expressions can be parsed, and the tree is the only one that spells the word and escapes every
interpolation.
-/

namespace Stencil

namespace Template

/-- A piece of a template without its place. -/
inductive Mark where
  | text (s : String)
  | interpolation (source : String)
  | index
  | ifOpen (condition : String)
  | ifElse
  | ifClose
  | eachOpen (loopVar collection : String)
  | eachClose
  deriving DecidableEq

/-- The text of the expression in a mark. -/
def Mark.source? : Mark → Option String
  | .interpolation source => some source
  | .ifOpen condition => some condition
  | .eachOpen _ collection => some collection
  | _ => none

/-- What a piece is, wherever it stands. -/
def Piece.mark : Piece → Mark
  | .text s => .text (String.ofList s)
  | .tag _ (.interpolation source) => .interpolation (String.ofList source.item)
  | .tag _ .index => .index
  | .tag _ (.ifOpen condition) => .ifOpen (String.ofList condition.item)
  | .tag _ .ifElse => .ifElse
  | .tag _ .ifClose => .ifClose
  | .tag _ (.eachOpen loopVar collection) => .eachOpen loopVar (String.ofList collection.item)
  | .tag _ .eachClose => .eachClose

/-- Sequences of marks in which every block is closed: a condition has at most one alternative, and
a loop has none. -/
inductive Balanced : List Mark → Prop where
  | nil : Balanced []
  | text (s : String) {rest : List Mark} :
      Balanced rest → Balanced (.text s :: rest)
  | interpolation (source : String) {rest : List Mark} :
      Balanced rest → Balanced (.interpolation source :: rest)
  | index {rest : List Mark} :
      Balanced rest → Balanced (.index :: rest)
  | ifThen (condition : String) {body rest : List Mark} :
      Balanced body → Balanced rest →
      Balanced (.ifOpen condition :: body ++ .ifClose :: rest)
  | ifElse (condition : String) {body alternative rest : List Mark} :
      Balanced body → Balanced alternative → Balanced rest →
      Balanced (.ifOpen condition :: body ++ .ifElse :: alternative ++ .ifClose :: rest)
  | each (loopVar collection : String) {body rest : List Mark} :
      Balanced body → Balanced rest →
      Balanced (.eachOpen loopVar collection :: body ++ .eachClose :: rest)

/-! ## Trees as sequences of marks -/

mutual

/-- The marks that a node is written with. -/
def marks : Node → List Mark
  | .text s => [.text s]
  | .interpolation source _ => [.interpolation source.text]
  | .index => [.index]
  | .ifThen condition body => .ifOpen condition.text :: marksOfAll body ++ [.ifClose]
  | .ifElse condition body alternative =>
      .ifOpen condition.text :: marksOfAll body ++ .ifElse :: marksOfAll alternative ++ [.ifClose]
  | .each loopVar collection body =>
      .eachOpen loopVar collection.text :: marksOfAll body ++ [.eachClose]

/-- The marks that nodes are written with. -/
def marksOfAll : List Node → List Mark
  | [] => []
  | node :: rest => marks node ++ marksOfAll rest

end

@[simp]
theorem marksOfAll_append (nodes others : List Node) :
    marksOfAll (nodes ++ others) = marksOfAll nodes ++ marksOfAll others := by
  induction nodes with
  | nil => rfl
  | cons node rest ih => simp [marksOfAll, ih]

/-- The expression of a source is the one that its text spells. -/
def IsParsed (source : Source) : Prop :=
  Expr.parse source.text = .ok source.expr

/-- The expression of an interpolation is the one that its text spells, or `undefined` if there is
no text. -/
def IsInterpolated (source : Source) : Prop :=
  if source.text = "" then source.expr = .literal .undefined else IsParsed source

mutual

/-- Every expression of a node is the one that its text spells, and every interpolation escapes. -/
def Faithful : Node → Prop
  | .text _ | .index => True
  | .interpolation source escape => IsInterpolated source ∧ escape = true
  | .ifThen condition body => IsParsed condition ∧ FaithfulAll body
  | .ifElse condition body alternative =>
      IsParsed condition ∧ FaithfulAll body ∧ FaithfulAll alternative
  | .each _ collection body => IsParsed collection ∧ FaithfulAll body

/-- Every expression of nodes is the one that its text spells, and every interpolation escapes. -/
def FaithfulAll : List Node → Prop
  | [] => True
  | node :: rest => Faithful node ∧ FaithfulAll rest

end

theorem faithfulAll_iff_forall (nodes : List Node) :
    FaithfulAll nodes ↔ ∀ node ∈ nodes, Faithful node := by
  induction nodes with
  | nil => simp [FaithfulAll]
  | cons node rest ih => simp [FaithfulAll, ih]

/-! ## Parsing the texts of tags -/

theorem parseSource_eq_ok_iff {located : Located (List Char)} {source : Source} :
    parseSource located = .ok source ↔
      source.text = String.ofList located.item ∧ IsParsed source := by
  rcases source with ⟨text, expr⟩
  simp only [parseSource, IsParsed]
  constructor
  · intro parsed
    split at parsed
    · rename_i found
      cases parsed
      exact ⟨rfl, found⟩
    · cases parsed
  · rintro ⟨rfl, found⟩
    rw [found]

theorem parseInterpolation_eq_ok_iff {located : Located (List Char)} {source : Source} :
    parseInterpolation located = .ok source ↔
      source.text = String.ofList located.item ∧ IsInterpolated source := by
  rcases located with ⟨offset, item⟩
  cases item with
  | nil =>
      rcases source with ⟨text, expr⟩
      simp only [parseInterpolation, IsInterpolated, List.isEmpty_nil, if_true, Except.ok.injEq,
        Source.mk.injEq]
      constructor
      · rintro ⟨rfl, rfl⟩
        exact ⟨rfl, rfl⟩
      · rintro ⟨rfl, undefined⟩
        exact ⟨rfl, undefined.symm⟩
  | cons c rest =>
      have nonempty : String.ofList (c :: rest) ≠ "" := by
        intro empty
        have := congrArg String.toList empty
        simp at this
      simp only [parseInterpolation, List.isEmpty_cons, Bool.false_eq_true, if_false,
        parseSource_eq_ok_iff, IsInterpolated]
      constructor
      · rintro ⟨text_eq, parsed⟩
        exact ⟨text_eq, by rwa [if_neg (text_eq ▸ nonempty)]⟩
      · rintro ⟨text_eq, parsed⟩
        exact ⟨text_eq, by rwa [if_neg (text_eq ▸ nonempty)] at parsed⟩

/-! ## What has been read -/

/-- The marks that open a block, up to the nodes that are still missing. -/
def Opening.marks : Opening → List Mark
  | .ifThen condition => [.ifOpen condition.text]
  | .ifElse condition body => .ifOpen condition.text :: marksOfAll body ++ [.ifElse]
  | .each loopVar collection => [.eachOpen loopVar collection.text]

/-- Every expression at the start of a block is the one that its text spells. -/
def Opening.IsFaithful : Opening → Prop
  | .ifThen condition => IsParsed condition
  | .ifElse condition body => IsParsed condition ∧ FaithfulAll body
  | .each _ collection => IsParsed collection

/-- The marks in front of the nodes of the innermost of some open blocks. -/
def marksOfBlocks : List Block → List Mark
  | [] => []
  | block :: outer =>
      marksOfBlocks outer ++ marksOfAll block.before.reverse ++ block.opening.marks

namespace Progress

/-- The marks that have been read. -/
def readMarks (progress : Progress) : List Mark :=
  marksOfBlocks progress.blocks ++ marksOfAll progress.nodes.reverse

/-- All that has been read is faithful. -/
structure IsFaithful (progress : Progress) : Prop where
  openings : ∀ block ∈ progress.blocks, block.opening.IsFaithful
  before : ∀ block ∈ progress.blocks, FaithfulAll block.before.reverse
  nodes : FaithfulAll progress.nodes.reverse

theorem isFaithful_start : start.IsFaithful :=
  ⟨by simp [start], by simp [start], trivial⟩

theorem readMarks_add (progress : Progress) (node : Node) :
    (progress.add node).readMarks = progress.readMarks ++ marks node := by
  simp [readMarks, add, marksOfAll]

theorem IsFaithful.add {progress : Progress} (faithful : progress.IsFaithful) {node : Node}
    (nodeFaithful : Faithful node) : (progress.add node).IsFaithful where
  openings := faithful.openings
  before := faithful.before
  nodes := by
    simp only [Progress.add, faithfulAll_iff_forall, List.mem_reverse, List.mem_cons]
    have nodes := (faithfulAll_iff_forall _).mp faithful.nodes
    rintro other (rfl | mem)
    · exact nodeFaithful
    · exact nodes other (List.mem_reverse.mpr mem)

theorem readMarks_enter (progress : Progress) (offset : Nat) (opening : Opening) :
    (progress.enter offset opening).readMarks = progress.readMarks ++ opening.marks := by
  simp [readMarks, enter, marksOfBlocks, marksOfAll]

theorem IsFaithful.enter {progress : Progress} (faithful : progress.IsFaithful) {offset : Nat}
    {opening : Opening} (openingFaithful : opening.IsFaithful) :
    (progress.enter offset opening).IsFaithful where
  openings := List.forall_mem_cons.mpr ⟨openingFaithful, faithful.openings⟩
  before := List.forall_mem_cons.mpr ⟨faithful.nodes, faithful.before⟩
  nodes := trivial

/-- The nodes outside the innermost block, with the block itself as the last of them. -/
theorem IsFaithful.leave {block : Block} {outer : List Block} {nodes : List Node}
    (faithful : IsFaithful ⟨block :: outer, nodes⟩) {node : Node} (nodeFaithful : Faithful node) :
    IsFaithful ⟨outer, node :: block.before⟩ := by
  have outside : IsFaithful ⟨outer, block.before⟩ :=
    ⟨fun other mem => faithful.openings other (List.mem_cons_of_mem block mem),
      fun other mem => faithful.before other (List.mem_cons_of_mem block mem),
      faithful.before block List.mem_cons_self⟩
  exact outside.add nodeFaithful

theorem turn_spec {progress next : Progress} {offset : Nat} (faithful : progress.IsFaithful)
    (turned : progress.turn offset = .ok next) :
    next.readMarks = progress.readMarks ++ [.ifElse] ∧ next.IsFaithful := by
  rcases progress with ⟨blocks, nodes⟩
  cases blocks with
  | nil => cases turned
  | cons block outer =>
      rcases block with ⟨opening, start, before⟩
      have openingFaithful := faithful.openings _ List.mem_cons_self
      cases opening with
      | ifThen condition =>
          cases turned
          refine ⟨?_, ?_, ?_, trivial⟩
          · simp [readMarks, marksOfBlocks, marksOfAll, Opening.marks]
          · exact List.forall_mem_cons.mpr ⟨⟨openingFaithful, faithful.nodes⟩,
              fun other mem => faithful.openings other (List.mem_cons_of_mem _ mem)⟩
          · exact List.forall_mem_cons.mpr
              ⟨faithful.before ⟨.ifThen condition, start, before⟩ List.mem_cons_self,
                fun other mem => faithful.before other (List.mem_cons_of_mem _ mem)⟩
      | ifElse condition body => cases turned
      | each loopVar collection => cases turned

theorem closeIf_spec {progress next : Progress} {offset : Nat} (faithful : progress.IsFaithful)
    (closed : progress.closeIf offset = .ok next) :
    next.readMarks = progress.readMarks ++ [.ifClose] ∧ next.IsFaithful := by
  rcases progress with ⟨blocks, nodes⟩
  cases blocks with
  | nil => cases closed
  | cons block outer =>
      rcases block with ⟨opening, start, before⟩
      have openingFaithful := faithful.openings _ List.mem_cons_self
      cases opening with
      | ifThen condition =>
          cases closed
          refine ⟨?_, faithful.leave ⟨openingFaithful, faithful.nodes⟩⟩
          simp [readMarks, marksOfBlocks, marksOfAll, Opening.marks, marks]
      | ifElse condition body =>
          cases closed
          refine ⟨?_, faithful.leave ⟨openingFaithful.1, openingFaithful.2, faithful.nodes⟩⟩
          simp [readMarks, marksOfBlocks, marksOfAll, Opening.marks, marks]
      | each loopVar collection => cases closed

theorem closeEach_spec {progress next : Progress} {offset : Nat} (faithful : progress.IsFaithful)
    (closed : progress.closeEach offset = .ok next) :
    next.readMarks = progress.readMarks ++ [.eachClose] ∧ next.IsFaithful := by
  rcases progress with ⟨blocks, nodes⟩
  cases blocks with
  | nil => cases closed
  | cons block outer =>
      rcases block with ⟨opening, start, before⟩
      have openingFaithful := faithful.openings _ List.mem_cons_self
      cases opening with
      | ifThen condition => cases closed
      | ifElse condition body => cases closed
      | each loopVar collection =>
          cases closed
          refine ⟨?_, faithful.leave ⟨openingFaithful, faithful.nodes⟩⟩
          simp [readMarks, marksOfBlocks, marksOfAll, Opening.marks, marks]

/-- One step reads one mark and keeps what has been read faithful. -/
theorem step_spec {progress next : Progress} {piece : Piece} (faithful : progress.IsFaithful)
    (stepped : progress.step piece = .ok next) :
    next.readMarks = progress.readMarks ++ [piece.mark] ∧ next.IsFaithful := by
  cases piece with
  | text s =>
      cases stepped
      exact ⟨readMarks_add progress _, faithful.add trivial⟩
  | tag offset tag =>
      cases tag with
      | interpolation located =>
          rcases bind_eq_ok_iff.mp stepped with ⟨source, parsed, added⟩
          cases added
          rcases parseInterpolation_eq_ok_iff.mp parsed with ⟨text_eq, interpolated⟩
          refine ⟨?_, faithful.add ⟨interpolated, rfl⟩⟩
          rw [readMarks_add, marks, text_eq, Piece.mark]
      | index =>
          cases stepped
          exact ⟨readMarks_add progress _, faithful.add trivial⟩
      | ifOpen located =>
          rcases bind_eq_ok_iff.mp stepped with ⟨source, parsed, entered⟩
          cases entered
          rcases parseSource_eq_ok_iff.mp parsed with ⟨text_eq, isParsed⟩
          refine ⟨?_, faithful.enter isParsed⟩
          rw [readMarks_enter, Opening.marks, text_eq, Piece.mark]
      | eachOpen loopVar located =>
          rcases bind_eq_ok_iff.mp stepped with ⟨source, parsed, entered⟩
          cases entered
          rcases parseSource_eq_ok_iff.mp parsed with ⟨text_eq, isParsed⟩
          refine ⟨?_, faithful.enter isParsed⟩
          rw [readMarks_enter, Opening.marks, text_eq, Piece.mark]
      | ifElse => exact turn_spec faithful stepped
      | ifClose => exact closeIf_spec faithful stepped
      | eachClose => exact closeEach_spec faithful stepped

/-- What has been read after some pieces are their marks, one after the other. -/
theorem foldlM_step_spec {pieces : List Piece} {progress last : Progress}
    (faithful : progress.IsFaithful) (run : pieces.foldlM step progress = .ok last) :
    last.readMarks = progress.readMarks ++ pieces.map Piece.mark ∧ last.IsFaithful := by
  induction pieces generalizing progress with
  | nil =>
      cases run
      exact ⟨by simp, faithful⟩
  | cons piece rest ih =>
      rcases bind_eq_ok_iff.mp run with ⟨next, stepped, others⟩
      rcases step_spec faithful stepped with ⟨next_eq, nextFaithful⟩
      rcases ih nextFaithful others with ⟨last_eq, lastFaithful⟩
      exact ⟨by rw [last_eq, next_eq, List.map_cons, List.append_assoc, List.singleton_append],
        lastFaithful⟩

end Progress

/-- The nodes of a template spell its marks and are faithful. -/
theorem spec_of_nodesOf {pieces : List Piece} {nodes : List Node}
    (built : nodesOf pieces = .ok nodes) :
    marksOfAll nodes = pieces.map Piece.mark ∧ FaithfulAll nodes := by
  rcases bind_eq_ok_iff.mp built with ⟨⟨blocks, reversed⟩, run, finished⟩
  rcases Progress.foldlM_step_spec Progress.isFaithful_start run with ⟨marks_eq, faithful⟩
  cases blocks with
  | nil =>
      cases finished
      refine ⟨?_, faithful.nodes⟩
      simpa [Progress.readMarks, Progress.start, marksOfBlocks, marksOfAll] using marks_eq
  | cons block outer =>
      rcases block with ⟨opening, start, before⟩
      cases opening <;> cases finished

/-! ## Reading the marks of a tree -/

namespace Progress

theorem step_of_mark_text {piece : Piece} {s : String} (marked : piece.mark = .text s)
    (progress : Progress) : progress.step piece = .ok (progress.add (.text s)) := by
  cases piece with
  | text _ =>
      cases marked
      rfl
  | tag _ tag => cases tag <;> cases marked

theorem step_of_mark_index {piece : Piece} (marked : piece.mark = .index)
    (progress : Progress) : progress.step piece = .ok (progress.add .index) := by
  cases piece with
  | text _ => cases marked
  | tag _ tag => cases tag <;> first | rfl | cases marked

theorem step_of_mark_interpolation {piece : Piece} {source : Source}
    (marked : piece.mark = .interpolation source.text) (interpolated : IsInterpolated source)
    (progress : Progress) :
    progress.step piece = .ok (progress.add (.interpolation source true)) := by
  cases piece with
  | text _ => cases marked
  | tag _ tag =>
      cases tag with
      | interpolation located =>
          simp only [Piece.mark, Mark.interpolation.injEq] at marked
          have parsed := parseInterpolation_eq_ok_iff.mpr ⟨marked.symm, interpolated⟩
          simp only [step, parsed, ok_bind]
      | _ => cases marked

theorem step_of_mark_ifOpen {piece : Piece} {condition : Source}
    (marked : piece.mark = .ifOpen condition.text) (isParsed : IsParsed condition) :
    ∃ offset, ∀ progress : Progress,
      progress.step piece = .ok (progress.enter offset (.ifThen condition)) := by
  cases piece with
  | text _ => cases marked
  | tag offset tag =>
      cases tag with
      | ifOpen located =>
          simp only [Piece.mark, Mark.ifOpen.injEq] at marked
          have parsed := parseSource_eq_ok_iff.mpr ⟨marked.symm, isParsed⟩
          exact ⟨offset, fun progress => by simp only [step, parsed, ok_bind]⟩
      | _ => cases marked

theorem step_of_mark_eachOpen {piece : Piece} {loopVar : String} {collection : Source}
    (marked : piece.mark = .eachOpen loopVar collection.text) (isParsed : IsParsed collection) :
    ∃ offset, ∀ progress : Progress,
      progress.step piece = .ok (progress.enter offset (.each loopVar collection)) := by
  cases piece with
  | text _ => cases marked
  | tag offset tag =>
      cases tag with
      | eachOpen _ located =>
          simp only [Piece.mark, Mark.eachOpen.injEq] at marked
          rcases marked with ⟨rfl, text_eq⟩
          have parsed := parseSource_eq_ok_iff.mpr ⟨text_eq.symm, isParsed⟩
          exact ⟨offset, fun progress => by simp only [step, parsed, ok_bind]⟩
      | _ => cases marked

theorem step_of_mark_ifElse {piece : Piece} (marked : piece.mark = .ifElse) :
    ∃ offset, ∀ progress : Progress, progress.step piece = progress.turn offset := by
  cases piece with
  | text _ => cases marked
  | tag offset tag => cases tag <;> first | cases marked; done | exact ⟨offset, fun _ => rfl⟩

theorem step_of_mark_ifClose {piece : Piece} (marked : piece.mark = .ifClose) :
    ∃ offset, ∀ progress : Progress, progress.step piece = progress.closeIf offset := by
  cases piece with
  | text _ => cases marked
  | tag offset tag => cases tag <;> first | cases marked; done | exact ⟨offset, fun _ => rfl⟩

theorem step_of_mark_eachClose {piece : Piece} (marked : piece.mark = .eachClose) :
    ∃ offset, ∀ progress : Progress, progress.step piece = progress.closeEach offset := by
  cases piece with
  | text _ => cases marked
  | tag offset tag => cases tag <;> first | cases marked; done | exact ⟨offset, fun _ => rfl⟩

mutual

/-- The pieces of a faithful node add that node. -/
theorem foldlM_marks : (node : Node) → Faithful node → ∀ {pieces : List Piece},
    pieces.map Piece.mark = marks node → ∀ progress : Progress,
    pieces.foldlM step progress = .ok (progress.add node)
  | .text _, _, pieces, spelled, progress => by
      rcases List.map_eq_singleton_iff.mp spelled with ⟨piece, rfl, marked⟩
      simp only [List.foldlM_cons, step_of_mark_text marked, ok_bind, List.foldlM_nil]
      rfl
  | .interpolation _ _, faithful, pieces, spelled, progress => by
      rcases List.map_eq_singleton_iff.mp spelled with ⟨piece, rfl, marked⟩
      rcases faithful with ⟨interpolated, rfl⟩
      simp only [List.foldlM_cons, step_of_mark_interpolation marked interpolated, ok_bind,
        List.foldlM_nil]
      rfl
  | .index, _, pieces, spelled, progress => by
      rcases List.map_eq_singleton_iff.mp spelled with ⟨piece, rfl, marked⟩
      simp only [List.foldlM_cons, step_of_mark_index marked, ok_bind, List.foldlM_nil]
      rfl
  | .ifThen condition body, faithful, pieces, spelled, progress => by
      rcases List.map_eq_cons_iff.mp spelled with ⟨opened, _, rfl, openedAs, spelled⟩
      rcases List.map_eq_append_iff.mp spelled with ⟨inner, _, rfl, innerMarks, spelled⟩
      rcases List.map_eq_singleton_iff.mp spelled with ⟨closed, rfl, closedAs⟩
      rcases step_of_mark_ifOpen openedAs faithful.1 with ⟨start, entered⟩
      rcases step_of_mark_ifClose closedAs with ⟨stop, left⟩
      simp only [List.foldlM_cons, List.foldlM_append, entered, ok_bind,
        foldlM_marksOfAll body faithful.2 innerMarks, left, List.foldlM_nil]
      simp [enter, closeIf, add, pure, Except.pure]
  | .ifElse condition body alternative, faithful, pieces, spelled, progress => by
      rcases List.map_eq_append_iff.mp spelled with ⟨_, _, rfl, branches, closing⟩
      rcases List.map_eq_append_iff.mp branches with ⟨_, _, rfl, opening, turning⟩
      rcases List.map_eq_cons_iff.mp opening with ⟨opened, inner, rfl, openedAs, innerMarks⟩
      rcases List.map_eq_cons_iff.mp turning with ⟨turned, others, rfl, turnedAs, otherMarks⟩
      rcases List.map_eq_singleton_iff.mp closing with ⟨closed, rfl, closedAs⟩
      rcases step_of_mark_ifOpen openedAs faithful.1 with ⟨start, entered⟩
      rcases step_of_mark_ifElse turnedAs with ⟨middle, alternated⟩
      rcases step_of_mark_ifClose closedAs with ⟨stop, left⟩
      simp only [List.foldlM_cons, List.foldlM_append, entered, ok_bind,
        foldlM_marksOfAll body faithful.2.1 innerMarks, alternated]
      simp only [enter, turn, ok_bind, foldlM_marksOfAll alternative faithful.2.2 otherMarks, left,
        List.foldlM_nil]
      simp [closeIf, add, pure, Except.pure]
  | .each loopVar collection body, faithful, pieces, spelled, progress => by
      rcases List.map_eq_cons_iff.mp spelled with ⟨opened, _, rfl, openedAs, spelled⟩
      rcases List.map_eq_append_iff.mp spelled with ⟨inner, _, rfl, innerMarks, spelled⟩
      rcases List.map_eq_singleton_iff.mp spelled with ⟨closed, rfl, closedAs⟩
      rcases step_of_mark_eachOpen openedAs faithful.1 with ⟨start, entered⟩
      rcases step_of_mark_eachClose closedAs with ⟨stop, left⟩
      simp only [List.foldlM_cons, List.foldlM_append, entered, ok_bind,
        foldlM_marksOfAll body faithful.2 innerMarks, left, List.foldlM_nil]
      simp [enter, closeEach, add, pure, Except.pure]

/-- The pieces of faithful nodes add those nodes. -/
theorem foldlM_marksOfAll : (nodes : List Node) → FaithfulAll nodes → ∀ {pieces : List Piece},
    pieces.map Piece.mark = marksOfAll nodes → ∀ progress : Progress,
    pieces.foldlM step progress = .ok ⟨progress.blocks, nodes.reverse ++ progress.nodes⟩
  | [], _, pieces, spelled, progress => by
      rcases List.map_eq_nil_iff.mp spelled with rfl
      rfl
  | node :: rest, faithful, pieces, spelled, progress => by
      rcases List.map_eq_append_iff.mp spelled with ⟨first, others, rfl, firstMarks, otherMarks⟩
      simp only [List.foldlM_append, foldlM_marks node faithful.1 firstMarks, ok_bind,
        foldlM_marksOfAll rest faithful.2 otherMarks]
      simp [add]

end

end Progress

/-- Pieces make up exactly the one faithful tree that spells their marks. -/
theorem nodesOf_eq_ok_iff {pieces : List Piece} {nodes : List Node} :
    nodesOf pieces = .ok nodes ↔
      marksOfAll nodes = pieces.map Piece.mark ∧ FaithfulAll nodes := by
  constructor
  · exact spec_of_nodesOf
  · rintro ⟨spelled, faithful⟩
    have run := Progress.foldlM_marksOfAll nodes faithful spelled.symm Progress.start
    simp only [nodesOf, run, ok_bind]
    simp [Progress.finish, Progress.start]

/-! ## Balanced marks -/

mutual

theorem balanced_marks_append : (node : Node) → {rest : List Mark} → Balanced rest →
    Balanced (marks node ++ rest)
  | .text s, _, balanced => .text s balanced
  | .interpolation source _, _, balanced => .interpolation source.text balanced
  | .index, _, balanced => .index balanced
  | .ifThen condition body, rest, balanced => by
      have block := Balanced.ifThen condition.text (balanced_marksOfAll body) balanced
      simpa [marks] using block
  | .ifElse condition body alternative, rest, balanced => by
      have block := Balanced.ifElse condition.text (balanced_marksOfAll body)
        (balanced_marksOfAll alternative) balanced
      simpa [marks] using block
  | .each loopVar collection body, rest, balanced => by
      have block := Balanced.each loopVar collection.text (balanced_marksOfAll body) balanced
      simpa [marks] using block

/-- The marks of a tree are balanced. -/
theorem balanced_marksOfAll : (nodes : List Node) → Balanced (marksOfAll nodes)
  | [] => .nil
  | node :: rest => balanced_marks_append node (balanced_marksOfAll rest)

end

/-- The text in a mark spells an expression; only that of an interpolation may be empty. -/
def Mark.Parses : Mark → Prop
  | .interpolation source => source ≠ "" → ∃ e, Expr.parse source = .ok e
  | .ifOpen condition => ∃ e, Expr.parse condition = .ok e
  | .eachOpen _ collection => ∃ e, Expr.parse collection = .ok e
  | _ => True

theorem exists_interpolated {source : String} (parses : (Mark.interpolation source).Parses) :
    ∃ expr, IsInterpolated ⟨source, expr⟩ := by
  by_cases empty : source = ""
  · exact ⟨.literal .undefined, by rw [IsInterpolated, if_pos empty]⟩
  · rcases parses empty with ⟨e, parsed⟩
    exact ⟨e, by rwa [IsInterpolated, if_neg empty]⟩

mutual

theorem parses_of_mem_marks : (node : Node) → Faithful node → ∀ mark ∈ marks node, mark.Parses
  | .text _, _, _, mem | .index, _, _, mem => by
      cases List.mem_singleton.mp mem
      trivial
  | .interpolation source _, faithful, _, mem => by
      cases List.mem_singleton.mp mem
      intro nonempty
      have interpolated := faithful.1
      exact ⟨source.expr, by rwa [IsInterpolated, if_neg nonempty] at interpolated⟩
  | .ifThen condition body, faithful, mark, mem => by
      simp only [marks, List.cons_append, List.mem_cons, List.mem_append, List.not_mem_nil,
        or_false] at mem
      rcases mem with rfl | mem | rfl
      · exact ⟨condition.expr, faithful.1⟩
      · exact parses_of_mem_marksOfAll body faithful.2 mark mem
      · trivial
  | .ifElse condition body alternative, faithful, mark, mem => by
      simp only [marks, List.cons_append, List.mem_cons, List.mem_append, List.not_mem_nil,
        or_false] at mem
      rcases mem with rfl | (mem | rfl | mem) | rfl
      · exact ⟨condition.expr, faithful.1⟩
      · exact parses_of_mem_marksOfAll body faithful.2.1 mark mem
      · trivial
      · exact parses_of_mem_marksOfAll alternative faithful.2.2 mark mem
      · trivial
  | .each loopVar collection body, faithful, mark, mem => by
      simp only [marks, List.cons_append, List.mem_cons, List.mem_append, List.not_mem_nil,
        or_false] at mem
      rcases mem with rfl | mem | rfl
      · exact ⟨collection.expr, faithful.1⟩
      · exact parses_of_mem_marksOfAll body faithful.2 mark mem
      · trivial

/-- The marks of a faithful tree have texts that spell expressions. -/
theorem parses_of_mem_marksOfAll : (nodes : List Node) → FaithfulAll nodes →
    ∀ mark ∈ marksOfAll nodes, mark.Parses
  | [], _, _, mem => by cases mem
  | node :: rest, faithful, mark, mem => by
      rcases List.mem_append.mp mem with mem | mem
      · exact parses_of_mem_marks node faithful.1 mark mem
      · exact parses_of_mem_marksOfAll rest faithful.2 mark mem

end

/-- Balanced marks with texts that spell expressions are those of a faithful tree. -/
theorem exists_faithful_of_balanced {word : List Mark} (balanced : Balanced word)
    (parses : ∀ mark ∈ word, mark.Parses) :
    ∃ nodes, marksOfAll nodes = word ∧ FaithfulAll nodes := by
  induction balanced with
  | nil => exact ⟨[], rfl, trivial⟩
  | text s _ ih =>
      rcases List.forall_mem_cons.mp parses with ⟨_, others⟩
      rcases ih others with ⟨nodes, rfl, faithful⟩
      exact ⟨.text s :: nodes, rfl, trivial, faithful⟩
  | interpolation source _ ih =>
      rcases List.forall_mem_cons.mp parses with ⟨first, others⟩
      rcases exists_interpolated first with ⟨expr, interpolated⟩
      rcases ih others with ⟨nodes, rfl, faithful⟩
      exact ⟨.interpolation ⟨source, expr⟩ true :: nodes, rfl, ⟨interpolated, rfl⟩, faithful⟩
  | index _ ih =>
      rcases List.forall_mem_cons.mp parses with ⟨_, others⟩
      rcases ih others with ⟨nodes, rfl, faithful⟩
      exact ⟨.index :: nodes, rfl, trivial, faithful⟩
  | ifThen condition _ _ bodyIh restIh =>
      simp only [List.cons_append, List.forall_mem_cons, List.forall_mem_append] at parses
      rcases parses with ⟨⟨expr, parsed⟩, inside, _, outside⟩
      rcases bodyIh inside with ⟨body, rfl, bodyFaithful⟩
      rcases restIh outside with ⟨nodes, rfl, faithful⟩
      exact ⟨.ifThen ⟨condition, expr⟩ body :: nodes, by simp [marksOfAll, marks],
        ⟨parsed, bodyFaithful⟩, faithful⟩
  | ifElse condition _ _ _ bodyIh alternativeIh restIh =>
      simp only [List.cons_append, List.forall_mem_cons, List.forall_mem_append] at parses
      rcases parses with ⟨⟨expr, parsed⟩, ⟨inside, _, otherwise⟩, _, outside⟩
      rcases bodyIh inside with ⟨body, rfl, bodyFaithful⟩
      rcases alternativeIh otherwise with ⟨alternative, rfl, alternativeFaithful⟩
      rcases restIh outside with ⟨nodes, rfl, faithful⟩
      exact ⟨.ifElse ⟨condition, expr⟩ body alternative :: nodes, by simp [marksOfAll, marks],
        ⟨parsed, bodyFaithful, alternativeFaithful⟩, faithful⟩
  | each loopVar collection _ _ bodyIh restIh =>
      simp only [List.cons_append, List.forall_mem_cons, List.forall_mem_append] at parses
      rcases parses with ⟨⟨expr, parsed⟩, inside, _, outside⟩
      rcases bodyIh inside with ⟨body, rfl, bodyFaithful⟩
      rcases restIh outside with ⟨nodes, rfl, faithful⟩
      exact ⟨.each loopVar ⟨collection, expr⟩ body :: nodes, by simp [marksOfAll, marks],
        ⟨parsed, bodyFaithful⟩, faithful⟩

/-! ## Scanned sources -/

/-- In the marks of a scanned source, a text that spells an expression is all that is asked of the
texts that are not empty. -/
theorem parses_iff_of_scan {source : List Char} {scanned : Scanned}
    (scan_eq : scan source = .ok scanned) :
    (∀ mark ∈ scanned.pieces.map Piece.mark, mark.Parses) ↔
      ∀ mark ∈ scanned.pieces.map Piece.mark, ∀ text, mark.source? = some text → text ≠ "" →
        ∃ e, Expr.parse text = .ok e := by
  rcases cuts_of_scan scan_eq with ⟨skipped, cuts⟩
  constructor
  · intro parses mark mem text isSource nonempty
    have parsesMark := parses mark mem
    cases mark with
    | interpolation source =>
        cases isSource
        exact parsesMark nonempty
    | ifOpen condition =>
        cases isSource
        exact parsesMark
    | eachOpen loopVar collection =>
        cases isSource
        exact parsesMark
    | _ => cases isSource
  · intro texts mark mem
    have parsesText := texts mark mem
    rcases List.mem_map.mp mem with ⟨piece, pieceMem, rfl⟩
    cases piece with
    | text s => trivial
    | tag offset tag =>
        rcases cuts.exists_read pieceMem with ⟨inner, read⟩
        have hasSource := Tag.hasSource_of_read read
        cases tag with
        | interpolation located => exact parsesText _ rfl
        | ifOpen condition => exact parsesText _ rfl (by simpa [Tag.HasSource] using hasSource)
        | eachOpen loopVar collection =>
            exact parsesText _ rfl (by simpa [Tag.HasSource] using hasSource)
        | _ => trivial

/-- The pieces of a scanned source make up a tree exactly when their blocks are balanced and every
text that is not empty spells an expression.  The tree spells the pieces, and no other tree does
whose expressions are those of its texts and whose interpolations escape. -/
theorem nodesOf_scan_iff_balanced {source : List Char} {scanned : Scanned}
    (scan_eq : scan source = .ok scanned) :
    ((∃ nodes, nodesOf scanned.pieces = .ok nodes) ↔
        Balanced (scanned.pieces.map Piece.mark) ∧
          ∀ mark ∈ scanned.pieces.map Piece.mark, ∀ text, mark.source? = some text → text ≠ "" →
            ∃ e, Expr.parse text = .ok e) ∧
      ∀ nodes, nodesOf scanned.pieces = .ok nodes ↔
        marksOfAll nodes = scanned.pieces.map Piece.mark ∧ FaithfulAll nodes := by
  refine ⟨?_, fun nodes => nodesOf_eq_ok_iff⟩
  rw [← parses_iff_of_scan scan_eq]
  constructor
  · rintro ⟨nodes, built⟩
    rcases nodesOf_eq_ok_iff.mp built with ⟨spelled, faithful⟩
    rw [← spelled]
    exact ⟨balanced_marksOfAll nodes, parses_of_mem_marksOfAll nodes faithful⟩
  · rintro ⟨balanced, parses⟩
    rcases exists_faithful_of_balanced balanced parses with ⟨nodes, spelled, faithful⟩
    exact ⟨nodes, nodesOf_eq_ok_iff.mpr ⟨spelled, faithful⟩⟩

/-- A condition with an empty branch and an empty interpolation, inside a loop. -/
theorem nodesOf_scan_loop :
    scan (braced "#each x in a".toList ++ braced "#if x".toList ++ braced "else".toList ++
        braced [] ++ braced "/if".toList ++ braced "/each".toList) =
      .ok ⟨[.tag 0 (.eachOpen "x" ⟨13, ['a']⟩), .tag 16 (.ifOpen ⟨22, ['x']⟩), .tag 25 .ifElse,
        .tag 33 (.interpolation ⟨35, []⟩), .tag 37 .ifClose, .tag 44 .eachClose], []⟩ ∧
      ∃ nodes, nodesOf [.tag 0 (.eachOpen "x" ⟨13, ['a']⟩), .tag 16 (.ifOpen ⟨22, ['x']⟩),
        .tag 25 .ifElse, .tag 33 (.interpolation ⟨35, []⟩), .tag 37 .ifClose,
        .tag 44 .eachClose] = .ok nodes := by
  have loop : Tag.read 2 "#each x in a".toList = .ok (.eachOpen "x" ⟨13, ['a']⟩) := by
    change readEach 2 7 " x in a".toList = _
    cbv
  have cut : cutFrom none 0 (braced "#each x in a".toList ++ braced "#if x".toList ++
      braced "else".toList ++ braced [] ++ braced "/if".toList ++ braced "/each".toList) = .ok _ :=
    cutFrom_eq_ok_iff.mpr
      (.tag ⟨_, rfl, rfl⟩ (by simp) loop
        (.tag ⟨_, rfl, rfl⟩ (by simp) rfl
          (.tag ⟨_, rfl, rfl⟩ (by simp) rfl
            (.tag ⟨_, rfl, rfl⟩ (by simp) rfl
              (.tag ⟨_, rfl, rfl⟩ (by simp) rfl
                (.tag ⟨_, rfl, rfl⟩ (by simp) rfl (.plain untagged_nil)))))))
  have noGlobals : findGlobals? (braced "#each x in a".toList ++ braced "#if x".toList ++
      braced "else".toList ++ braced [] ++ braced "/if".toList ++ braced "/each".toList) = none :=
    rfl
  have scan_eq : scan (braced "#each x in a".toList ++ braced "#if x".toList ++
      braced "else".toList ++ braced [] ++ braced "/if".toList ++ braced "/each".toList) =
      .ok ⟨[.tag 0 (.eachOpen "x" ⟨13, ['a']⟩), .tag 16 (.ifOpen ⟨22, ['x']⟩), .tag 25 .ifElse,
        .tag 33 (.interpolation ⟨35, []⟩), .tag 37 .ifClose, .tag 44 .eachClose], []⟩ := by
    rw [scan, noGlobals]
    simp only [cut, ok_bind]
    rfl
  refine ⟨scan_eq, (nodesOf_scan_iff_balanced scan_eq).1.mpr ⟨?_, ?_⟩⟩
  · exact .each "x" "a" (.ifElse "x" .nil (.interpolation "" .nil) .nil) .nil
  · intro mark mem text isSource nonempty
    simp only [List.map_cons, List.map_nil, Piece.mark, List.mem_cons, List.not_mem_nil,
      or_false] at mem
    rcases mem with rfl | rfl | rfl | rfl | rfl | rfl <;> cases isSource
    · exact ⟨.var "a", by cbv⟩
    · exact ⟨.var "x", by cbv⟩
    · exact absurd rfl nonempty

end Template

end Stencil
