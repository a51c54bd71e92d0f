import Stencil.Proofs.Expr.Offsets
import Stencil.Proofs.Template.Blocks
import Stencil.Proofs.Template.Compile
import Stencil.Proofs.Template.Slices

/-!
# Places of faults in templates

Blocks are at fault where one of their tags starts, and expressions where their texts are, so every
fault of a template stands in its source.  The first text that spells no expression is the one that
is reported, at its own place plus that of the fault in it.
-/

namespace Stencil

namespace Template

variable {source : List Char} {text : Located (List Char)} {limit : Nat}

/-! ## Faults of expressions -/

theorem parseSource_within (stands : Stands source text) :
    FaultsWithin source.length (fun _ => True) (parseSource text) := by
  rw [parseSource]
  split
  · trivial
  · rename_i fault refused
    have inside := Expr.offset_le_of_parse refused
    have end_le := stands.end_le
    rw [String.toList_ofList] at inside
    show text.offset + fault.offset ≤ source.length
    omega

theorem parseInterpolation_within (stands : Stands source text) :
    FaultsWithin source.length (fun _ => True) (parseInterpolation text) := by
  rw [parseInterpolation]
  split
  · trivial
  · exact parseSource_within stands

/-! ## Faults of blocks -/

namespace Progress

/-- The open blocks start at places up to a limit. -/
def Within (limit : Nat) (progress : Progress) : Prop :=
  ∀ block ∈ progress.blocks, block.offset ≤ limit

theorem within_start (limit : Nat) : start.Within limit := by
  simp [Within, start]

theorem Within.leave {block : Block} {outer : List Block} {nodes others : List Node}
    (within : Within limit ⟨block :: outer, nodes⟩) : Within limit ⟨outer, others⟩ :=
  fun other mem => within other (List.mem_cons_of_mem block mem)

variable {progress : Progress} {place : Nat}

theorem turn_within (within : progress.Within limit) (place_le : place ≤ limit) :
    FaultsWithin limit (Within limit) (progress.turn place) := by
  rcases progress with ⟨blocks, nodes⟩
  cases blocks with
  | nil => exact place_le
  | cons block outer =>
      rcases block with ⟨opening, start, before⟩
      cases opening with
      | ifThen condition => exact List.forall_mem_cons.mpr (List.forall_mem_cons.mp within)
      | ifElse condition body => exact place_le
      | each loopVar collection => exact place_le

theorem closeIf_within (within : progress.Within limit) (place_le : place ≤ limit) :
    FaultsWithin limit (Within limit) (progress.closeIf place) := by
  rcases progress with ⟨blocks, nodes⟩
  cases blocks with
  | nil => exact place_le
  | cons block outer =>
      rcases block with ⟨opening, start, before⟩
      cases opening with
      | ifThen condition => exact within.leave
      | ifElse condition body => exact within.leave
      | each loopVar collection => exact place_le

theorem closeEach_within (within : progress.Within limit) (place_le : place ≤ limit) :
    FaultsWithin limit (Within limit) (progress.closeEach place) := by
  rcases progress with ⟨blocks, nodes⟩
  cases blocks with
  | nil => exact place_le
  | cons block outer =>
      rcases block with ⟨opening, start, before⟩
      cases opening with
      | ifThen condition => exact place_le
      | ifElse condition body => exact place_le
      | each loopVar collection => exact within.leave

theorem Within.enter (within : progress.Within limit) (place_le : place ≤ limit)
    (opening : Opening) : (progress.enter place opening).Within limit :=
  List.forall_mem_cons.mpr ⟨place_le, within⟩

/-- One step fails in the source and opens blocks there. -/
theorem step_within {piece : Piece} (within : progress.Within source.length)
    (slice : piece.IsSlice source) :
    FaultsWithin source.length (Within source.length) (progress.step piece) := by
  cases piece with
  | text s => exact within
  | tag place tag =>
      rcases slice with ⟨place_le, slice⟩
      cases tag with
      | interpolation text =>
          exact (parseInterpolation_within (slice text rfl)).bind fun parsed _ => within
      | index => exact within
      | ifOpen condition =>
          exact (parseSource_within (slice condition rfl)).bind fun parsed _ =>
            within.enter place_le _
      | eachOpen loopVar collection =>
          exact (parseSource_within (slice collection rfl)).bind fun parsed _ =>
            within.enter place_le _
      | ifElse => exact turn_within within place_le
      | ifClose => exact closeIf_within within place_le
      | eachClose => exact closeEach_within within place_le

theorem finish_within (within : progress.Within limit) :
    FaultsWithin limit (fun _ => True) progress.finish := by
  rcases progress with ⟨blocks, nodes⟩
  cases blocks with
  | nil => trivial
  | cons block outer =>
      have offset_le := within block List.mem_cons_self
      rcases block with ⟨opening, start, before⟩
      cases opening <;> exact offset_le

end Progress

theorem nodesOf_within {pieces : List Piece} (slices : ∀ piece ∈ pieces, piece.IsSlice source) :
    FaultsWithin source.length (fun _ => True) (nodesOf pieces) := by
  have steps : ∀ progress : Progress, progress.Within source.length → ∀ piece ∈ pieces,
      FaultsWithin source.length (Progress.Within source.length) (progress.step piece) :=
    fun progress within piece mem => Progress.step_within within (slices piece mem)
  exact (FaultsWithin.foldlM steps (Progress.within_start source.length)).bind
    fun progress within => Progress.finish_within within

/-- A source that does not compile is at fault inside itself, line breaks aside. -/
theorem compile_within (source : String) :
    FaultsWithin (normalize source.toList).length (fun _ => True) (compile source) := by
  refine (scan_within (normalize source.toList)).bind fun scanned slices => ?_
  exact (nodesOf_within slices).bind fun nodes _ => trivial

/-! ## The first fault -/

/-- Marks whose open blocks can all be closed: no block among them is closed by a wrong mark. -/
def Closable (word : List Mark) : Prop :=
  ∃ closing, (∀ mark ∈ closing, mark = .ifClose ∨ mark = .eachClose) ∧ Balanced (word ++ closing)

/-- Some closing tags with given marks. -/
theorem exists_closing {closing : List Mark}
    (closes : ∀ mark ∈ closing, mark = .ifClose ∨ mark = .eachClose) :
    ∃ pieces : List Piece, pieces.map Piece.mark = closing := by
  induction closing with
  | nil => exact ⟨[], rfl⟩
  | cons mark rest ih =>
      rcases List.forall_mem_cons.mp closes with ⟨first, others⟩
      rcases ih others with ⟨pieces, rfl⟩
      rcases first with rfl | rfl
      · exact ⟨.tag 0 .ifClose :: pieces, rfl⟩
      · exact ⟨.tag 0 .eachClose :: pieces, rfl⟩

/-- Pieces are read without a fault as long as their blocks can be closed and their texts spell
expressions. -/
theorem exists_foldlM_of_closable {pieces : List Piece}
    (closable : Closable (pieces.map Piece.mark)) (parses : ∀ piece ∈ pieces, piece.mark.Parses) :
    ∃ progress, pieces.foldlM Progress.step .start = .ok progress := by
  rcases closable with ⟨closing, closes, balanced⟩
  have allParse : ∀ mark ∈ pieces.map Piece.mark ++ closing, mark.Parses := by
    intro mark mem
    rcases List.mem_append.mp mem with mem | mem
    · rcases List.mem_map.mp mem with ⟨piece, pieceMem, rfl⟩
      exact parses piece pieceMem
    · rcases closes mark mem with rfl | rfl <;> trivial
  rcases exists_closing closes with ⟨closers, rfl⟩
  rcases exists_faithful_of_balanced balanced allParse with ⟨nodes, spelled, faithful⟩
  rw [← List.map_append] at spelled
  have run := Progress.foldlM_marksOfAll nodes faithful spelled.symm .start
  rw [List.foldlM_append] at run
  rcases bind_eq_ok_iff.mp run with ⟨progress, read, _⟩
  exact ⟨progress, read⟩

/-- The first text in a tag that spells no expression.  In front of it no block is closed by a wrong
tag.  An interpolation without a text stands for a value and is not meant. -/
structure IsFirstFault (pieces : List Piece) (text : Located (List Char))
    (fault : Located Expr.Fault) : Prop where
  refused : Expr.parse (String.ofList text.item) = .error fault
  first : ∃ front place tag back, pieces = front ++ .tag place tag :: back ∧
    tag.source? = some text ∧ (tag = .interpolation text → text.item ≠ []) ∧
    Closable (front.map Piece.mark) ∧ ∀ piece ∈ front, piece.mark.Parses

theorem parseSource_of_refused {fault : Located Expr.Fault}
    (refused : Expr.parse (String.ofList text.item) = .error fault) :
    parseSource text = .error ⟨text.offset + fault.offset, .expression fault.item⟩ := by
  simp only [parseSource, refused]

theorem step_of_refused {tag : Tag} {fault : Located Expr.Fault}
    (refused : Expr.parse (String.ofList text.item) = .error fault)
    (isSource : tag.source? = some text) (filled : tag = .interpolation text → text.item ≠ [])
    (progress : Progress) (place : Nat) :
    progress.step (.tag place tag) =
      .error ⟨text.offset + fault.offset, .expression fault.item⟩ := by
  have parsed := parseSource_of_refused refused
  cases tag with
  | interpolation located =>
      cases isSource
      have nonempty := filled rfl
      rw [← List.isEmpty_eq_false_iff] at nonempty
      simp only [Progress.step, parseInterpolation, nonempty, Bool.false_eq_true, if_false, parsed,
        error_bind]
  | ifOpen condition =>
      cases isSource
      simp only [Progress.step, parsed, error_bind]
  | eachOpen loopVar collection =>
      cases isSource
      simp only [Progress.step, parsed, error_bind]
  | ifElse => cases isSource
  | ifClose => cases isSource
  | eachClose => cases isSource
  | index => cases isSource

theorem IsFirstFault.nodesOf_eq {pieces : List Piece} {fault : Located Expr.Fault}
    (isFirst : IsFirstFault pieces text fault) :
    nodesOf pieces = .error ⟨text.offset + fault.offset, .expression fault.item⟩ := by
  rcases isFirst.first with ⟨front, place, tag, back, rfl, isSource, filled, closable, parses⟩
  rcases exists_foldlM_of_closable closable parses with ⟨progress, read⟩
  have stepped := step_of_refused isFirst.refused isSource filled progress place
  simp only [nodesOf, List.foldlM_append, read, ok_bind, List.foldlM_cons, stepped, error_bind]

/-! ## Main result -/

/-- The text of every tag is the slice of the source that starts at the place of the text; the first
text that spells no expression is reported at that place plus the place of its fault, with the
wording of the fault; and every fault stands in the source or right behind it. -/
theorem offsets_of_compile (source : String) :
    (∀ scanned, scan (normalize source.toList) = .ok scanned →
      ∀ place tag text, .tag place tag ∈ scanned.pieces → tag.source? = some text →
        text.offset + text.item.length ≤ (normalize source.toList).length ∧
        (normalize source.toList).extract text.offset (text.offset + text.item.length) =
          text.item) ∧
    (∀ scanned text fault, scan (normalize source.toList) = .ok scanned →
      IsFirstFault scanned.pieces text fault →
        ∃ found, compile source = .error found ∧ found.offset = text.offset + fault.offset ∧
          found.item = .expression fault.item ∧ found.item.message = fault.item.message) ∧
    ∀ fault, compile source = .error fault →
      fault.offset ≤ (normalize source.toList).length := by
  refine ⟨?_, ?_, ?_⟩
  · intro scanned scan_eq place tag text mem isSource
    have slices := scan_within (normalize source.toList)
    rw [scan_eq] at slices
    have stands := (slices _ mem).2 text isSource
    exact ⟨stands.end_le, stands.extract_eq⟩
  · intro scanned text fault scan_eq isFirst
    refine ⟨⟨text.offset + fault.offset, .expression fault.item⟩, ?_, rfl, rfl, rfl⟩
    simp only [compile, scan_eq, ok_bind, isFirst.nodesOf_eq, error_bind]
  · intro fault failed
    have within := compile_within source
    rwa [failed] at within

/-- A fault in a condition, behind a character of two bytes, an interpolation without a text, a line
break, and white space of three bytes. -/
theorem offsets_of_compile_accented :
    ∃ source : String,
      source = String.ofList ('é' :: braced [] ++
        '\n' :: braced ['#', 'i', 'f', '\u2003', 'b', ' ', '+', ' '] ++ braced "/if".toList) ∧
      scan (normalize source.toList) = .ok ⟨[.text ['é'], .tag 1 (.interpolation ⟨3, []⟩),
        .tag 5 (.ifOpen ⟨11, ['b', ' ', '+']⟩), .tag 17 .ifClose], []⟩ ∧
      (normalize source.toList).extract 11 14 = ['b', ' ', '+'] ∧
      IsFirstFault [.text ['é'], .tag 1 (.interpolation ⟨3, []⟩),
        .tag 5 (.ifOpen ⟨11, ['b', ' ', '+']⟩), .tag 17 .ifClose]
        ⟨11, ['b', ' ', '+']⟩ ⟨3, .unexpected .stop⟩ ∧
      ∃ found, compile source = .error found ∧ found.offset = 14 ∧
        found.item = .expression (.unexpected .stop) ∧
        found.item.message = "Unexpected end of expression" ∧
        found.offset ≤ (normalize source.toList).length := by
  have normalized : normalize (String.ofList ('é' :: braced [] ++
      '\n' :: braced ['#', 'i', 'f', '\u2003', 'b', ' ', '+', ' '] ++
        braced "/if".toList)).toList =
      'é' :: braced [] ++ braced ['#', 'i', 'f', '\u2003', 'b', ' ', '+', ' '] ++
        braced "/if".toList := by
    rw [String.toList_ofList]
    rfl
  have cuts : Cuts none 0 ('é' :: braced [] ++
      braced ['#', 'i', 'f', '\u2003', 'b', ' ', '+', ' '] ++ braced "/if".toList) _ :=
    .tag ⟨_, rfl, rfl⟩ (by simp) rfl
      (.tag ⟨_, rfl, rfl⟩ (by simp) rfl
        (.tag ⟨_, rfl, rfl⟩ (by simp) rfl (.plain untagged_nil)))
  have scan_eq : scan (normalize (String.ofList ('é' :: braced [] ++
      '\n' :: braced ['#', 'i', 'f', '\u2003', 'b', ' ', '+', ' '] ++
        braced "/if".toList)).toList) =
      .ok ⟨[.text ['é'], .tag 1 (.interpolation ⟨3, []⟩),
        .tag 5 (.ifOpen ⟨11, ['b', ' ', '+']⟩), .tag 17 .ifClose], []⟩ := by
    rw [normalized]
    exact scan_eq_ok_iff.mpr (.inl ⟨rfl, rfl, cuts⟩)
  have isFirst : IsFirstFault [.text ['é'], .tag 1 (.interpolation ⟨3, []⟩),
      .tag 5 (.ifOpen ⟨11, ['b', ' ', '+']⟩), .tag 17 .ifClose]
      ⟨11, ['b', ' ', '+']⟩ ⟨3, .unexpected .stop⟩ := by
    have balanced : Balanced [.text "é", .interpolation ""] :=
      .text "é" (.interpolation "" .nil)
    refine ⟨by cbv, [.text ['é'], .tag 1 (.interpolation ⟨3, []⟩)], 5, _, [.tag 17 .ifClose], rfl,
      rfl, by simp, ⟨[], by simp, balanced⟩, ?_⟩
    exact List.forall_mem_cons.mpr ⟨trivial, List.forall_mem_singleton.mpr (absurd rfl)⟩
  rcases offsets_of_compile (String.ofList ('é' :: braced [] ++
    '\n' :: braced ['#', 'i', 'f', '\u2003', 'b', ' ', '+', ' '] ++
      braced "/if".toList)) with ⟨slices, firstFault, within⟩
  rcases firstFault _ _ _ scan_eq isFirst with ⟨found, failed, offset_eq, item_eq, message_eq⟩
  refine ⟨_, rfl, scan_eq, ?_, isFirst, found, failed, offset_eq, item_eq, message_eq,
    within found failed⟩
  exact (slices _ scan_eq 5 (.ifOpen ⟨11, ['b', ' ', '+']⟩) _ (by simp) rfl).2

/-- An interpolation without a text compiles, although no expression has an empty text. -/
theorem compile_empty_interpolation :
    scan (normalize (String.ofList (braced [])).toList) =
        .ok ⟨[.tag 0 (.interpolation ⟨2, []⟩)], []⟩ ∧
      Expr.parse (String.ofList []) = .error ⟨0, .unexpected .stop⟩ ∧
      ∃ template, compile (String.ofList (braced [])) = .ok template := by
  have normalized : normalize (String.ofList (braced [])).toList = braced [] := by
    rw [String.toList_ofList]
    rfl
  have cuts : Cuts none 0 (braced []) _ :=
    .tag ⟨_, rfl, rfl⟩ (by simp) rfl (.plain untagged_nil)
  have scan_eq : scan (normalize (String.ofList (braced [])).toList) =
      .ok ⟨[.tag 0 (.interpolation ⟨2, []⟩)], []⟩ := by
    rw [normalized]
    exact scan_eq_ok_iff.mpr (.inl ⟨rfl, rfl, cuts⟩)
  have built : nodesOf [.tag 0 (.interpolation ⟨2, []⟩)] =
      .ok [.interpolation ⟨"", .literal .undefined⟩ true] :=
    rfl
  exact ⟨scan_eq, by cbv, _, compile_eq_ok_iff.mpr ⟨_, _, scan_eq, built, rfl⟩⟩

end Template

end Stencil
