import Stencil.Proofs.Sequence
import Stencil.Proofs.Template.Pieces

/-!
# Texts of tags are slices of the source

The text of an expression in a tag is a part of the source, and its place is where that part starts:
behind the braces, the keyword and all white space, counted in characters.  Each layer that takes a
part of a text keeps this, so it holds of whatever is cut from a source.  A tag that cannot be read
is at fault inside the source.
-/

namespace Stencil.Template

open Text

variable {source s : List Char} {offset : Nat}

/-- A text stands in a source at its place. -/
def Stands (source : List Char) (text : Located (List Char)) : Prop :=
  ∃ front back, source = front ++ text.item ++ back ∧ front.length = text.offset

namespace Stands

theorem self (source : List Char) : Stands source ⟨0, source⟩ :=
  ⟨[], [], by simp⟩

theorem end_le {text : Located (List Char)} (stands : Stands source text) :
    text.offset + text.item.length ≤ source.length := by
  rcases stands with ⟨front, back, rfl, front_eq⟩
  simp only [List.length_append]
  omega

theorem offset_le {text : Located (List Char)} (stands : Stands source text) :
    text.offset ≤ source.length :=
  Nat.le_trans (Nat.le_add_right _ _) stands.end_le

theorem extract_eq {text : Located (List Char)} (stands : Stands source text) :
    source.extract text.offset (text.offset + text.item.length) = text.item := by
  rcases stands with ⟨front, back, rfl, front_eq⟩
  rw [List.extract_eq_take_drop, ← front_eq, List.append_assoc, List.drop_left,
    Nat.add_sub_cancel_left, List.take_left]

/-- A part of a part is a part. -/
theorem trans (stands : Stands source ⟨offset, s⟩) {place : Nat} {part : List Char}
    (inside : Stands s ⟨place, part⟩) : Stands source ⟨offset + place, part⟩ := by
  rcases stands with ⟨front, back, source_eq, front_eq⟩
  rcases inside with ⟨before, after, s_eq, before_eq⟩
  dsimp only at source_eq front_eq s_eq before_eq
  refine ⟨front ++ before, after ++ back, ?_, ?_⟩
  · rw [source_eq, s_eq]
    simp only [List.append_assoc]
  · rw [List.length_append, front_eq, before_eq]

end Stands

/-! ## Parts of texts -/

theorem trimEnd_append_trailing (s : List Char) : ∃ trailing, s = trimEnd s ++ trailing := by
  refine ⟨(s.reverse.takeWhile isSpace).reverse, ?_⟩
  rw [trimEnd, ← List.reverse_append, List.takeWhile_append_dropWhile, List.reverse_reverse]

/-- A trimmed text stands behind the leading white space, also if nothing is left of it. -/
theorem stands_trim (s : List Char) : Stands s ⟨leadingSpaces s, trim s⟩ := by
  rcases trimEnd_append_trailing (trimStart s) with ⟨trailing, start_eq⟩
  refine ⟨s.takeWhile isSpace, trailing, ?_, rfl⟩
  rw [List.append_assoc, trim, ← start_eq, trimStart_append_leading]

theorem Stands.trimmedAt (stands : Stands source ⟨offset, s⟩) :
    Stands source (trimmedAt offset s) := by
  by_cases blank : trim s = []
  · have front : Stands s ⟨0, []⟩ := ⟨[], s, rfl, rfl⟩
    simpa [Template.trimmedAt, blank] using stands.trans front
  · simpa [Template.trimmedAt, blank] using stands.trans (stands_trim s)

theorem stands_of_afterKeyword? {keyword rest : List Char}
    (found : afterKeyword? keyword s = some rest) : Stands s ⟨keyword.length, rest⟩ := by
  rw [afterKeyword?] at found
  split at found
  · rename_i starts
    rcases List.isPrefixOf_iff_prefix.mp starts with ⟨behind, rfl⟩
    simp only [List.drop_left] at found
    split at found
    · cases found
      exact ⟨keyword, [], by simp, rfl⟩
    · cases found
  · cases found

theorem stands_of_cut? {separator before after : List Char}
    (cut : cut? separator s = some (before, after)) :
    Stands s ⟨0, before⟩ ∧ Stands s ⟨before.length + separator.length, after⟩ := by
  rw [eq_append_of_cut? cut]
  exact ⟨⟨[], separator ++ after, by simp, rfl⟩, ⟨before ++ separator, [], by simp, by simp⟩⟩

theorem FirstTag.stands {before inner rest : List Char} (first : FirstTag s before inner rest) :
    Stands s ⟨before.length + 2, inner⟩ ∧
      Stands s ⟨before.length + inner.length + 4, rest⟩ := by
  rw [first.eq_append]
  refine ⟨⟨before ++ openMark, closeMark ++ rest, ?_, ?_⟩,
    ⟨before ++ openMark ++ inner ++ closeMark, [], ?_, ?_⟩⟩
  · simp only [List.append_assoc]
  · simp [openMark]
  · simp only [List.append_nil]
  · simp [openMark, closeMark]
    omega

/-! ## Tags -/

/-- The text of the expression in a tag. -/
def Tag.source? : Tag → Option (Located (List Char))
  | .ifOpen condition => some condition
  | .eachOpen _ collection => some collection
  | .interpolation text => some text
  | .ifElse | .ifClose | .eachClose | .index => none

/-- The text of the expression in a tag stands in the source. -/
def Tag.IsSlice (source : List Char) (tag : Tag) : Prop :=
  ∀ text, tag.source? = some text → Stands source text

theorem readIf_within (stands : Stands source ⟨offset, s⟩) {place : Nat}
    (place_le : place ≤ source.length) :
    FaultsWithin source.length (Tag.IsSlice source) (readIf place offset s) := by
  simp only [readIf]
  split
  · exact place_le
  · rintro text ⟨⟩
    exact stands.trimmedAt

theorem readEach_within (stands : Stands source ⟨offset, s⟩) {place : Nat}
    (place_le : place ≤ source.length) :
    FaultsWithin source.length (Tag.IsSlice source) (readEach place offset s) := by
  rw [readEach]
  split
  · exact place_le
  · rename_i before after cut
    rcases stands_of_cut? cut with ⟨loopVar, collection⟩
    dsimp only
    split
    · exact (stands.trans loopVar).trimmedAt.offset_le
    · split
      · exact place_le
      · rintro text ⟨⟩
        have behind := stands.trans collection
        rw [← Nat.add_assoc] at behind
        exact behind.trimmedAt

theorem isSlice_of_wordTag? {tag : Tag} (word : wordTag? s = some tag) : tag.IsSlice source := by
  simp only [wordTag?] at word
  repeat' split at word
  all_goals cases word
  all_goals rintro text ⟨⟩

theorem readTrimmed_within (stands : Stands source ⟨offset, s⟩) :
    FaultsWithin source.length (Tag.IsSlice source) (readTrimmed ⟨offset, s⟩) := by
  rw [readTrimmed]
  split
  · rename_i rest found
    exact readIf_within (stands.trans (stands_of_afterKeyword? found)) stands.offset_le
  · split
    · rename_i tag word
      exact isSlice_of_wordTag? word
    · split
      · rename_i rest found
        exact readEach_within (stands.trans (stands_of_afterKeyword? found)) stands.offset_le
      · split
        · exact stands.offset_le
        · rintro text ⟨⟩
          exact stands

/-- A tag is read to a slice of the source, or is at fault inside the source. -/
theorem Tag.read_within (stands : Stands source ⟨offset, s⟩) :
    FaultsWithin source.length (Tag.IsSlice source) (Tag.read offset s) :=
  readTrimmed_within (stands.trans (stands_trim s))

/-! ## Pieces -/

/-- A tag starts in the source, and its text is a slice of the source. -/
def Piece.IsSlice (source : List Char) : Piece → Prop
  | .text _ => True
  | .tag place inner => place ≤ source.length ∧ inner.IsSlice source

theorem isSlice_prependText {pieces : List Piece} (before : List Char)
    (slices : ∀ piece ∈ pieces, piece.IsSlice source) :
    ∀ piece ∈ prependText before pieces, piece.IsSlice source := by
  intro piece mem
  cases piece with
  | text s => trivial
  | tag place tag => exact slices _ (tag_mem_prependText.mp mem)

theorem cutFrom_within (skipped : Option Nat) (stands : Stands source ⟨offset, s⟩) :
    FaultsWithin source.length (fun pieces => ∀ piece ∈ pieces, piece.IsSlice source)
      (cutFrom skipped offset s) := by
  induction length : s.length using Nat.strongRecOn generalizing offset s with
  | _ n ih =>
      rcases untagged_or_firstTag s with untagged | ⟨before, inner, rest, first⟩
      · rw [cutFrom_of_untagged untagged]
        exact isSlice_prependText s (by simp)
      · have tagStands := stands.trans first.stands.1
        have restStands := stands.trans first.stands.2
        rw [← Nat.add_assoc] at tagStands
        rw [← Nat.add_assoc, ← Nat.add_assoc] at restStands
        have others := ih _ (length ▸ first.length_rest_lt) restStands rfl
        rw [cutFrom_of_firstTag first]
        split
        · exact others.bind fun pieces slices => isSlice_prependText before slices
        · refine (Tag.read_within tagStands).bind fun tag tagSlice => ?_
          refine others.bind fun pieces slices => ?_
          have start_le := tagStands.offset_le
          have tagPlaced : (Piece.tag (offset + before.length) tag).IsSlice source :=
            ⟨Nat.le_of_add_right_le start_le, tagSlice⟩
          exact isSlice_prependText before (List.forall_mem_cons.mpr ⟨tagPlaced, slices⟩)

/-! ## The whole source -/

theorem declaredNames_within {declaration : Located (List Char)}
    (found : findGlobals? source = some declaration) :
    FaultsWithin source.length (fun _ => True) (declaredNames declaration) := by
  rw [declaredNames]
  split
  · simp only [findGlobals?, Option.bind_eq_bind, Option.bind_eq_some_iff] at found
    rcases found with ⟨⟨before, after⟩, opened, ⟨list, behind⟩, closed, same⟩
    cases same
    exact (stands_of_cut? opened).2.offset_le
  · trivial

/-- The texts of tags that are cut from a source are slices of it, and whatever cannot be cut is at
fault inside it. -/
theorem scan_within (source : List Char) :
    FaultsWithin source.length (fun scanned => ∀ piece ∈ scanned.pieces, piece.IsSlice source)
      (scan source) := by
  rw [scan]
  split
  · exact (cutFrom_within none (Stands.self source)).bind fun pieces slices => slices
  · rename_i declaration found
    refine (declaredNames_within found).bind fun globals _ => ?_
    exact (cutFrom_within _ (Stands.self source)).bind fun pieces slices => slices

end Stencil.Template
