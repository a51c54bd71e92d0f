import Stencil.Proofs.Sequence
import Stencil.Template.Piece

/-!
# Cutting a source at its tags

A source is cut by finding the nearest opening braces and the nearest closing braces after them, and
going on behind those.  The relation below says what one cut can do; what holds of all pieces of a
source follows by induction on it.
-/

namespace Stencil.Template

open Text

/-- No tag starts in a text: its first opening braces, if any, are never closed. -/
def Untagged (s : List Char) : Prop :=
  ∀ before after, cut? openMark s = some (before, after) → cut? closeMark after = none

/-- A tag is the first one of a text: what stands before it, inside it and behind it. -/
def FirstTag (s before inner rest : List Char) : Prop :=
  ∃ after, cut? openMark s = some (before, after) ∧ cut? closeMark after = some (inner, rest)

/-- A tag as it is written. -/
def braced (inner : List Char) : List Char :=
  openMark ++ inner ++ closeMark

theorem untagged_nil : Untagged [] := by
  intro before after opened
  cases opened

/-- The pieces of a text that starts at `offset`, cut by cut. -/
inductive Cuts (skipped : Option Nat) : Nat → List Char → List Piece → Prop where
  | plain {offset : Nat} {s : List Char} :
      Untagged s → Cuts skipped offset s (prependText s [])
  | skip {offset : Nat} {s before inner rest : List Char} {pieces : List Piece} :
      FirstTag s before inner rest →
      skipped = some (offset + before.length) →
      Cuts skipped (offset + before.length + inner.length + 4) rest pieces →
      Cuts skipped offset s (prependText before pieces)
  | tag {offset : Nat} {s before inner rest : List Char} {tag : Tag} {pieces : List Piece} :
      FirstTag s before inner rest →
      skipped ≠ some (offset + before.length) →
      Tag.read (offset + before.length + 2) inner = .ok tag →
      Cuts skipped (offset + before.length + inner.length + 4) rest pieces →
      Cuts skipped offset s (prependText before (.tag (offset + before.length) tag :: pieces))

/-- Every text has a first tag or none. -/
theorem untagged_or_firstTag (s : List Char) :
    Untagged s ∨ ∃ before inner rest, FirstTag s before inner rest := by
  cases opened : cut? openMark s with
  | none => exact .inl (by simp [Untagged, opened])
  | some parts =>
      rcases parts with ⟨before, after⟩
      cases closed : cut? closeMark after with
      | none => exact .inl (by simp [Untagged, opened, closed])
      | some parts => exact .inr ⟨before, parts.1, parts.2, after, opened, closed⟩

theorem FirstTag.eq_append {s before inner rest : List Char}
    (first : FirstTag s before inner rest) :
    s = before ++ openMark ++ inner ++ closeMark ++ rest := by
  rcases first with ⟨after, opened, closed⟩
  rw [eq_append_of_cut? opened, eq_append_of_cut? closed]
  simp only [List.append_assoc]

theorem FirstTag.length_rest_lt {s before inner rest : List Char}
    (first : FirstTag s before inner rest) : rest.length < s.length := by
  have lengths := congrArg List.length first.eq_append
  simp only [List.length_append, openMark, closeMark, List.length_cons, List.length_nil] at lengths
  omega

theorem cutFrom_of_untagged {skipped : Option Nat} {offset : Nat} {s : List Char}
    (untagged : Untagged s) : cutFrom skipped offset s = .ok (prependText s []) := by
  rw [cutFrom]
  split
  · rfl
  · rename_i before after opened
    split
    · rfl
    · rename_i inner rest closed
      rw [untagged before after opened] at closed
      cases closed

theorem cutFrom_of_firstTag {skipped : Option Nat} {offset : Nat}
    {s before inner rest : List Char} (first : FirstTag s before inner rest) :
    cutFrom skipped offset s =
      if skipped = some (offset + before.length) then
        cutFrom skipped (offset + before.length + inner.length + 4) rest >>= fun more =>
          .ok (prependText before more)
      else
        Tag.read (offset + before.length + 2) inner >>= fun tag =>
          cutFrom skipped (offset + before.length + inner.length + 4) rest >>= fun more =>
            .ok (prependText before (.tag (offset + before.length) tag :: more)) := by
  rcases first with ⟨after, opened, closed⟩
  rw [cutFrom]
  split
  · rename_i notOpened
    rw [opened] at notOpened
    cases notOpened
  · rename_i openedAgain
    rw [opened] at openedAgain
    cases openedAgain
    split
    · rename_i notClosed
      rw [closed] at notClosed
      cases notClosed
    · rename_i closedAgain
      rw [closed] at closedAgain
      cases closedAgain
      rfl

/-- Cutting succeeds with exactly the pieces of some sequence of cuts. -/
theorem cutFrom_eq_ok_iff {skipped : Option Nat} {offset : Nat} {s : List Char}
    {pieces : List Piece} :
    cutFrom skipped offset s = .ok pieces ↔ Cuts skipped offset s pieces := by
  constructor
  · intro cut
    induction length : s.length using Nat.strongRecOn generalizing offset s pieces with
    | _ n ih =>
        rcases untagged_or_firstTag s with untagged | ⟨before, inner, rest, first⟩
        · rw [cutFrom_of_untagged untagged] at cut
          cases cut
          exact .plain untagged
        · have shorter := length ▸ first.length_rest_lt
          rw [cutFrom_of_firstTag first] at cut
          split at cut
          · rename_i isSkipped
            rcases bind_eq_ok_iff.mp cut with ⟨more, cutMore, done⟩
            cases done
            exact .skip first isSkipped (ih _ shorter cutMore rfl)
          · rename_i notSkipped
            rcases bind_eq_ok_iff.mp cut with ⟨tag, read, cut⟩
            rcases bind_eq_ok_iff.mp cut with ⟨more, cutMore, done⟩
            cases done
            exact .tag first notSkipped read (ih _ shorter cutMore rfl)
  · intro cuts
    induction cuts with
    | plain untagged => exact cutFrom_of_untagged untagged
    | skip first isSkipped _ ih =>
        rw [cutFrom_of_firstTag first, if_pos isSkipped, ih, ok_bind]
    | tag first notSkipped read _ ih =>
        rw [cutFrom_of_firstTag first, if_neg notSkipped, read, ok_bind, ih, ok_bind]

/-- A scan cuts the source, without its first declaration of globals if there is one. -/
theorem scan_eq_ok_iff {source : List Char} {scanned : Scanned} :
    scan source = .ok scanned ↔
      (findGlobals? source = none ∧ scanned.globals = [] ∧ Cuts none 0 source scanned.pieces) ∨
        ∃ declaration, findGlobals? source = some declaration ∧
          declaredNames declaration = .ok scanned.globals ∧
          Cuts (some declaration.offset) 0 source scanned.pieces := by
  rcases scanned with ⟨pieces, globals⟩
  rw [scan]
  cases findGlobals? source with
  | none =>
      simp only [bind_eq_ok_iff, cutFrom_eq_ok_iff, Except.ok.injEq, Scanned.mk.injEq]
      constructor
      · rintro ⟨_, cuts, rfl, rfl⟩
        exact .inl ⟨trivial, rfl, cuts⟩
      · rintro (⟨_, rfl, cuts⟩ | ⟨_, impossible, _⟩)
        · exact ⟨_, cuts, rfl, rfl⟩
        · cases impossible
  | some declaration =>
      simp only [bind_eq_ok_iff, cutFrom_eq_ok_iff, Except.ok.injEq, Scanned.mk.injEq]
      constructor
      · rintro ⟨_, declared, _, cuts, rfl, rfl⟩
        exact .inr ⟨_, rfl, declared, cuts⟩
      · rintro (⟨impossible, _⟩ | ⟨_, same, declared, cuts⟩)
        · cases impossible
        · cases same
          exact ⟨_, declared, _, cuts, rfl, rfl⟩

/-- The pieces of a scanned source are the result of cutting it. -/
theorem cuts_of_scan {source : List Char} {scanned : Scanned}
    (scan_eq : scan source = .ok scanned) :
    ∃ skipped, Cuts skipped 0 source scanned.pieces := by
  rcases scan_eq_ok_iff.mp scan_eq with ⟨_, _, cuts⟩ | ⟨declaration, _, _, cuts⟩
  · exact ⟨none, cuts⟩
  · exact ⟨some declaration.offset, cuts⟩

/-! ## Tags -/

@[simp]
theorem tag_mem_prependText {offset : Nat} {tag : Tag} {s : List Char} {pieces : List Piece} :
    .tag offset tag ∈ prependText s pieces ↔ .tag offset tag ∈ pieces := by
  unfold prependText
  split <;> simp

/-- Every tag among the pieces of a text was read from the text between its braces. -/
theorem Cuts.exists_read {skipped : Option Nat} {start : Nat} {s : List Char}
    {pieces : List Piece} (cuts : Cuts skipped start s pieces) {offset : Nat} {tag : Tag}
    (mem : .tag offset tag ∈ pieces) : ∃ inner, Tag.read (offset + 2) inner = .ok tag := by
  induction cuts with
  | plain _ => simp at mem
  | skip _ _ _ ih => exact ih (tag_mem_prependText.mp mem)
  | tag first _ read _ ih =>
      rcases List.mem_cons.mp (tag_mem_prependText.mp mem) with same | mem
      · cases same
        exact ⟨_, read⟩
      · exact ih mem

/-- The tags of blocks have the text of an expression in them. -/
def Tag.HasSource : Tag → Prop
  | .ifOpen condition => condition.item ≠ []
  | .eachOpen _ collection => collection.item ≠ []
  | _ => True

theorem hasSource_of_readEach {place offset : Nat} {s : List Char} {tag : Tag}
    (read : readEach place offset s = .ok tag) : tag.HasSource := by
  simp only [readEach] at read
  split at read
  · cases read
  · split at read
    · cases read
    · split at read
      · cases read
      · rename_i nonempty
        cases read
        simpa [Tag.HasSource] using nonempty

theorem hasSource_of_readIf {place offset : Nat} {s : List Char} {tag : Tag}
    (read : readIf place offset s = .ok tag) : tag.HasSource := by
  simp only [readIf] at read
  split at read
  · cases read
  · rename_i nonempty
    cases read
    simpa [Tag.HasSource] using nonempty

theorem hasSource_of_wordTag? {s : List Char} {tag : Tag} (word : wordTag? s = some tag) :
    tag.HasSource := by
  simp only [wordTag?] at word
  repeat' split at word
  all_goals cases word
  all_goals trivial

/-- A condition or a loop without the text of an expression is refused. -/
theorem Tag.hasSource_of_read {offset : Nat} {s : List Char} {tag : Tag}
    (read : Tag.read offset s = .ok tag) : tag.HasSource := by
  simp only [Tag.read, readTrimmed] at read
  split at read
  · exact hasSource_of_readIf read
  · split at read
    · rename_i word
      cases read
      exact hasSource_of_wordTag? word
    · split at read
      · exact hasSource_of_readEach read
      · split at read
        · cases read
        · cases read
          trivial

end Stencil.Template
