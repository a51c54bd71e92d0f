import Stencil.Proofs.Template.Blocks
import Stencil.Proofs.Template.Seam

/-!
# Places put aside

Where a text starts is remembered in its pieces and in its faults, and decides nothing else: cut at
another place, a text gives the same marks or the same fault.
-/

namespace Stencil.Template

open Text

variable {α β : Type}

/-- What reading gave, places put aside. -/
def unplaced (form : α → β) : Except (Located Fault) α → Except Fault β
  | .ok a => .ok (form a)
  | .error fault => .error fault.item

/-- The marks of pieces that were cut, or the fault, places put aside. -/
def spelled (cut : Except (Located Fault) (List Piece)) : Except Fault (List Mark) :=
  unplaced (·.map Piece.mark) cut

/-- Equal marks or equal faults stay equal when the pieces are used in ways that only marks decide
about. -/
theorem unplaced_bind_congr {γ δ : Type} {form : α → β} {shape : γ → δ}
    {first second : Except (Located Fault) α} {use useAlso : α → Except (Located Fault) γ}
    (same : unplaced form first = unplaced form second)
    (used : ∀ a b, form a = form b → unplaced shape (use a) = unplaced shape (useAlso b)) :
    unplaced shape (first >>= use) = unplaced shape (second >>= useAlso) := by
  cases first with
  | error fault =>
      cases second with
      | error other =>
          simp only [unplaced, Except.error.injEq] at same
          simp only [error_bind, unplaced, same]
      | ok b => cases same
  | ok a =>
      cases second with
      | error other => cases same
      | ok b => exact used a b (Except.ok.inj same)

/-! ## Reading tags -/

/-- A tag without its place. -/
def Tag.mark (tag : Tag) : Mark :=
  (Piece.tag 0 tag).mark

theorem mark_tag (offset : Nat) (tag : Tag) : (Piece.tag offset tag).mark = tag.mark := by
  cases tag <;> rfl

theorem unplaced_readIf (place other offset base : Nat) (s : List Char) :
    unplaced Tag.mark (readIf place offset s) = unplaced Tag.mark (readIf other base s) := by
  simp only [readIf, trimmedAt]
  split <;> rfl

theorem unplaced_readEach (place other offset base : Nat) (s : List Char) :
    unplaced Tag.mark (readEach place offset s) = unplaced Tag.mark (readEach other base s) := by
  simp only [readEach, trimmedAt]
  cases cut? " in ".toList s with
  | none => rfl
  | some parts =>
      dsimp only
      by_cases isVariable : Name.isVariable (trim parts.1) = true
      · by_cases blank : (trim parts.2).isEmpty = true
        · simp only [isVariable, blank]
          rfl
        · simp only [isVariable, blank]
          rfl
      · simp only [isVariable]
        rfl

theorem unplaced_readTrimmed (offset other : Nat) (s : List Char) :
    unplaced Tag.mark (readTrimmed ⟨offset, s⟩) = unplaced Tag.mark (readTrimmed ⟨other, s⟩) := by
  simp only [readTrimmed]
  cases afterKeyword? "#if".toList s with
  | some rest => exact unplaced_readIf _ _ _ _ rest
  | none =>
      cases wordTag? s with
      | some tag => rfl
      | none =>
          cases afterKeyword? "#each".toList s with
          | some rest => exact unplaced_readEach _ _ _ _ rest
          | none =>
              dsimp only
              by_cases directive :
                  (decide (s.head? = some '#') || decide (s.head? = some '/')) = true
              · rw [if_pos directive, if_pos directive]
                rfl
              · rw [if_neg directive, if_neg directive]
                rfl

/-- Where a tag stands does not matter for what it is. -/
theorem unplaced_read (offset other : Nat) (s : List Char) :
    unplaced Tag.mark (Tag.read offset s) = unplaced Tag.mark (Tag.read other s) :=
  unplaced_readTrimmed _ _ (trim s)

/-! ## Cutting -/

/-- Pieces with the same marks start with the same text, or neither of them with any. -/
theorem text_or_not_of_map_mark {pieces others : List Piece}
    (same : pieces.map Piece.mark = others.map Piece.mark) :
    (∃ s rest more, pieces = .text s :: rest ∧ others = .text s :: more ∧
        rest.map Piece.mark = more.map Piece.mark) ∨
      ((∀ s rest, pieces ≠ .text s :: rest) ∧ ∀ s rest, others ≠ .text s :: rest) := by
  cases pieces with
  | nil =>
      rw [List.map_eq_nil_iff.mp same.symm]
      simp
  | cons piece rest =>
      cases others with
      | nil => cases same
      | cons other more =>
          rcases List.cons.inj same with ⟨mark_eq, rest_eq⟩
          cases piece with
          | text s =>
              cases other with
              | text t =>
                  have text_eq : s = t := String.ofList_injective (Mark.text.inj mark_eq)
                  exact .inl ⟨s, rest, more, rfl, by rw [text_eq], rest_eq⟩
              | tag offset tag => cases tag <;> cases mark_eq
          | tag offset tag =>
              cases other with
              | text t => cases tag <;> cases mark_eq
              | tag base tag => exact .inr (by simp)

theorem prependText_of_not_text {c : Char} {s : List Char} {pieces : List Piece}
    (notText : ∀ t rest, pieces ≠ .text t :: rest) :
    prependText (c :: s) pieces = .text (c :: s) :: pieces := by
  cases pieces with
  | nil => rfl
  | cons piece rest =>
      cases piece with
      | text t => exact absurd rfl (notText t rest)
      | tag offset tag => rfl

theorem map_mark_prependText {pieces others : List Piece} (s : List Char)
    (same : pieces.map Piece.mark = others.map Piece.mark) :
    (prependText s pieces).map Piece.mark = (prependText s others).map Piece.mark := by
  cases s with
  | nil => exact same
  | cons c s =>
      rcases text_or_not_of_map_mark same with
        ⟨t, rest, more, rfl, rfl, rest_eq⟩ | ⟨notText, alsoNotText⟩
      · simp [prependText, rest_eq]
      · rw [prependText_of_not_text notText, prependText_of_not_text alsoNotText, List.map_cons,
          List.map_cons, same]

theorem joinPieces_of_not_text {pieces others : List Piece}
    (notText : ∀ s rest, others ≠ .text s :: rest) :
    joinPieces pieces others = pieces ++ others := by
  unfold joinPieces
  split
  · exact absurd rfl (notText _ _)
  · rfl

theorem map_mark_joinPieces {others more : List Piece} (pieces : List Piece)
    (same : others.map Piece.mark = more.map Piece.mark) :
    (joinPieces pieces others).map Piece.mark = (joinPieces pieces more).map Piece.mark := by
  rcases text_or_not_of_map_mark same with ⟨s, rest, rest', rfl, rfl, rest_eq⟩ | ⟨notText, alsoNot⟩
  · simp only [joinPieces]
    split <;> simp_all
  · rw [joinPieces_of_not_text notText, joinPieces_of_not_text alsoNot, List.map_append,
      List.map_append, same]

/-- Cut at another place, a text gives the same marks or the same fault. -/
theorem spelled_cutFrom (offset other : Nat) (s : List Char) :
    spelled (cutFrom none offset s) = spelled (cutFrom none other s) := by
  induction length : s.length using Nat.strongRecOn generalizing offset other s with
  | _ n ih =>
      rcases untagged_or_firstTag s with untagged | ⟨before, inner, rest, first⟩
      · rw [cutFrom_of_untagged untagged, cutFrom_of_untagged untagged]
      · rw [cutFrom_of_firstTag first, cutFrom_of_firstTag first, if_neg (by simp),
          if_neg (by simp)]
        apply unplaced_bind_congr (unplaced_read _ _ inner)
        intro tag again tag_eq
        apply unplaced_bind_congr (ih _ (length ▸ first.length_rest_lt) _ _ rest rfl)
        intro pieces others pieces_eq
        apply congrArg Except.ok
        apply map_mark_prependText
        rw [List.map_cons, List.map_cons, mark_tag, mark_tag, tag_eq, pieces_eq]

/-- A text that can be cut at one place can be cut at any other. -/
theorem exists_cutFrom_of_ok {offset : Nat} {s : List Char} {pieces : List Piece}
    (cut : cutFrom none offset s = .ok pieces) (other : Nat) :
    ∃ more, cutFrom none other s = .ok more ∧ pieces.map Piece.mark = more.map Piece.mark := by
  have same := spelled_cutFrom offset other s
  rw [cut] at same
  cases cutMore : cutFrom none other s with
  | error fault =>
      rw [cutMore] at same
      cases same
  | ok more =>
      rw [cutMore] at same
      exact ⟨more, rfl, Except.ok.inj same⟩

end Stencil.Template
