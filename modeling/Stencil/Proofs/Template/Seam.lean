import Stencil.Proofs.Template.Pieces
import Stencil.Proofs.Text.Occurrence

/-!
# Cutting a text that goes on

What is appended to a text leaves its tags alone, unless the text leaves opening braces without
closing ones or ends in half of a pair.  Otherwise the longer text is cut where its two parts are
cut, and only the two runs of text at the seam grow together.
-/

namespace Stencil.Template

open Text

/-! ## Texts that are settled -/

/-- Outside the tags of a text there are no opening braces: none is left without closing ones. -/
inductive Closed : List Char → Prop where
  | plain {s : List Char} : ¬ openMark <:+: s → Closed s
  | tag {s before inner rest : List Char} : FirstTag s before inner rest → Closed rest → Closed s

/-- Nothing that follows a text can change how the text is cut. -/
structure Settled (s : List Char) : Prop where
  closed : Closed s
  not_half : s.getLast? ≠ some '\x7b'

/-- Beside what stands around the first tag and in it, a text has the four braces of the tag. -/
theorem FirstTag.length_eq {s before inner rest : List Char}
    (first : FirstTag s before inner rest) :
    s.length = before.length + inner.length + 4 + rest.length := by
  rw [first.eq_append]
  simp only [List.length_append, openMark, closeMark, List.length_cons, List.length_nil]
  omega

theorem FirstTag.getLast?_eq {s before inner rest : List Char}
    (first : FirstTag s before inner rest) :
    s.getLast? = some '\x7b' ↔ rest.getLast? = some '\x7b' := by
  rw [first.eq_append]
  cases rest with
  | nil => simp [closeMark]
  | cons c rest => simp [List.getLast?_append]

/-- A tag in front of a text does not change whether the text is settled. -/
theorem FirstTag.settled {s before inner rest : List Char} (first : FirstTag s before inner rest)
    (settled : Settled rest) : Settled s where
  closed := .tag first settled.closed
  not_half last := settled.not_half (first.getLast?_eq.mp last)

/-- The first tag stays where it is when the text goes on. -/
theorem FirstTag.append {s before inner rest : List Char} (first : FirstTag s before inner rest)
    (t : List Char) : FirstTag (s ++ t) before inner (rest ++ t) := by
  rcases first with ⟨after, opened, closed⟩
  exact ⟨after ++ t, cut?_append_right t opened, cut?_append_right t closed⟩

/-- A tag that ends inside the front of a text is a tag of that front. -/
theorem FirstTag.exists_of_append {s t before inner rest : List Char}
    (first : FirstTag (s ++ t) before inner rest)
    (inside : before.length + inner.length + 4 ≤ s.length) :
    ∃ others, rest = others ++ t ∧ FirstTag s before inner others := by
  rcases first with ⟨_, opened, closed⟩
  have openInside : before.length + openMark.length ≤ s.length := by
    simp only [openMark, List.length_cons, List.length_nil]
    omega
  rcases exists_cut?_of_append opened openInside with ⟨after, rfl, openedFront⟩
  have lengths := congrArg List.length (eq_append_of_cut? openedFront)
  simp only [List.length_append, openMark, List.length_cons, List.length_nil] at lengths
  have closeInside : inner.length + closeMark.length ≤ after.length := by
    simp only [closeMark, List.length_cons, List.length_nil]
    omega
  rcases exists_cut?_of_append closed closeInside with ⟨others, rest_eq, closedFront⟩
  exact ⟨others, rest_eq, after, openedFront, closedFront⟩

/-- No opening braces start in a text that has none and does not end in half of a pair. -/
theorem not_openMark_drop {s t : List Char} (plain : ¬ openMark <:+: s)
    (notHalf : s.getLast? ≠ some '\x7b') : ∀ i < s.length, ¬ openMark <+: (s ++ t).drop i := by
  induction s with
  | nil => simp
  | cons c rest ih =>
      intro i bound found
      cases i with
      | zero =>
          cases rest with
          | nil =>
              apply notHalf
              simp only [openMark, List.singleton_append, List.drop_zero,
                List.cons_prefix_cons] at found
              rw [← found.1, List.getLast?_singleton]
          | cons d rest =>
              apply plain
              rw [List.infix_cons_iff]
              exact .inl (by simpa [openMark] using found)
      | succ i =>
          have inside : i < rest.length := Nat.lt_of_succ_lt_succ bound
          refine ih (fun open_ => plain (List.infix_cons open_)) ?_ i inside found
          intro last
          exact notHalf (by simp [List.getLast?_cons, last])

/-- A text without opening braces goes in front of the first tag. -/
theorem FirstTag.prepend {s t before inner rest : List Char}
    (first : FirstTag t before inner rest) (plain : ¬ openMark <:+: s)
    (notHalf : s.getLast? ≠ some '\x7b') : FirstTag (s ++ t) (s ++ before) inner rest := by
  rcases first with ⟨after, opened, closed⟩
  refine ⟨after, ?_, closed⟩
  rw [cut?_append_left (not_openMark_drop plain notHalf), opened]
  rfl

/-- A text without opening braces does not bring a tag about. -/
theorem Untagged.prepend {s t : List Char} (untagged : Untagged t) (plain : ¬ openMark <:+: s)
    (notHalf : s.getLast? ≠ some '\x7b') : Untagged (s ++ t) := by
  intro before after opened
  rw [cut?_append_left (not_openMark_drop plain notHalf)] at opened
  rcases Option.map_eq_some_iff.mp opened with ⟨⟨_, _⟩, cut, same⟩
  cases same
  exact untagged _ _ cut

theorem untagged_of_plain {s : List Char} (plain : ¬ openMark <:+: s) : Untagged s := by
  intro before after opened
  rw [cut?_eq_none_iff.mpr plain] at opened
  cases opened

/-! ## Joining pieces -/

/-- Two sequences of pieces one after the other.  Text at the seam grows together. -/
def joinPieces (pieces others : List Piece) : List Piece :=
  match pieces.getLast?, others with
  | some (.text s), .text t :: rest => pieces.dropLast ++ .text (s ++ t) :: rest
  | _, others => pieces ++ others

theorem joinPieces_cons_cons (first second : Piece) (pieces others : List Piece) :
    joinPieces (first :: second :: pieces) others =
      first :: joinPieces (second :: pieces) others := by
  simp only [joinPieces, List.getLast?_cons_cons, List.dropLast_cons_cons]
  split <;> rfl

theorem joinPieces_tag (offset : Nat) (tag : Tag) (pieces others : List Piece) :
    joinPieces (.tag offset tag :: pieces) others =
      .tag offset tag :: joinPieces pieces others := by
  cases pieces with
  | nil => rfl
  | cons piece pieces => rw [joinPieces_cons_cons]

theorem joinPieces_prependText_nil (s : List Char) (others : List Piece) :
    joinPieces (prependText s []) others = prependText s others := by
  cases s with
  | nil => rfl
  | cons c rest =>
      cases others with
      | nil => rfl
      | cons piece others => cases piece <;> rfl

theorem joinPieces_prependText_tag (s : List Char) (offset : Nat) (tag : Tag)
    (pieces others : List Piece) :
    joinPieces (prependText s (.tag offset tag :: pieces)) others =
      prependText s (.tag offset tag :: joinPieces pieces others) := by
  cases s with
  | nil => rw [prependText, joinPieces_tag, prependText]
  | cons c rest =>
      change joinPieces (.text (c :: rest) :: .tag offset tag :: pieces) others = _
      rw [joinPieces_cons_cons, joinPieces_tag]
      rfl

theorem prependText_append (s t : List Char) (pieces : List Piece) :
    prependText (s ++ t) pieces = prependText s (prependText t pieces) := by
  cases s with
  | nil => rfl
  | cons c s =>
      cases t with
      | nil => simp [prependText]
      | cons d t =>
          cases pieces with
          | nil => rfl
          | cons piece pieces => cases piece <;> simp [prependText]

/-! ## Cutting -/

/-- A place that lies behind is never met again. -/
theorem cutFrom_of_behind {skipped : Option Nat} {offset : Nat} (s : List Char)
    (behind : ∀ place, skipped = some place → place < offset) :
    cutFrom skipped offset s = cutFrom none offset s := by
  induction length : s.length using Nat.strongRecOn generalizing offset s with
  | _ n ih =>
      rcases untagged_or_firstTag s with untagged | ⟨before, inner, rest, first⟩
      · rw [cutFrom_of_untagged untagged, cutFrom_of_untagged untagged]
      · have elsewhere : skipped ≠ some (offset + before.length) := by
          intro here
          have := behind _ here
          omega
        have behindRest : ∀ place, skipped = some place →
            place < offset + before.length + inner.length + 4 := by
          intro place here
          have := behind place here
          omega
        have rest_eq := ih _ (length ▸ first.length_rest_lt) rest behindRest rfl
        rw [cutFrom_of_firstTag first, cutFrom_of_firstTag first, if_neg elsewhere,
          if_neg (by simp), rest_eq]

/-- Cutting a text with some text without braces in front. -/
theorem cutFrom_prepend {skipped : Option Nat} {offset : Nat} {s t : List Char}
    (plain : ¬ openMark <:+: s) (notHalf : s.getLast? ≠ some '\x7b') :
    cutFrom skipped offset (s ++ t) =
      cutFrom skipped (offset + s.length) t >>= fun others => .ok (prependText s others) := by
  rcases untagged_or_firstTag t with untagged | ⟨before, inner, rest, first⟩
  · rw [cutFrom_of_untagged untagged, cutFrom_of_untagged (untagged.prepend plain notHalf),
      ok_bind, prependText_append]
  · have start_eq : offset + (s ++ before).length = offset + s.length + before.length := by
      rw [List.length_append, Nat.add_assoc]
    rw [cutFrom_of_firstTag first, cutFrom_of_firstTag (first.prepend plain notHalf), start_eq]
    split
    · simp only [bind_assoc, ok_bind, prependText_append]
    · simp only [bind_assoc, ok_bind, prependText_append]

/-- A settled text is cut as if it stood alone, and what follows as if it started there. -/
theorem cutFrom_append {skipped : Option Nat} {offset : Nat} {s t : List Char}
    (settled : Settled s) (ahead : ∀ place, skipped = some place → offset + s.length ≤ place) :
    cutFrom skipped offset (s ++ t) =
      cutFrom none offset s >>= fun pieces =>
        cutFrom skipped (offset + s.length) t >>= fun others =>
          .ok (joinPieces pieces others) := by
  rcases settled with ⟨closed, notHalf⟩
  induction closed generalizing offset with
  | plain plain =>
      rw [cutFrom_prepend plain notHalf, cutFrom_of_untagged (untagged_of_plain plain), ok_bind]
      simp only [joinPieces_prependText_nil]
  | @tag s before inner rest first _ ih =>
      have lengths := first.length_eq
      have elsewhere : skipped ≠ some (offset + before.length) := by
        intro here
        have := ahead _ here
        omega
      have stop_eq : offset + before.length + inner.length + 4 + rest.length =
          offset + s.length := by
        omega
      have rest_eq := @ih (offset + before.length + inner.length + 4) (stop_eq ▸ ahead)
        fun last => notHalf (first.getLast?_eq.mpr last)
      rw [cutFrom_of_firstTag (first.append t), cutFrom_of_firstTag first, if_neg elsewhere,
        if_neg (by simp), rest_eq, stop_eq]
      simp only [bind_assoc, ok_bind, joinPieces_prependText_tag]

theorem FirstTag.not_openMark_before {s before inner rest : List Char}
    (first : FirstTag s before inner rest) : ¬ openMark <:+: before := by
  rcases first with ⟨after, opened, _⟩
  rcases cut?_eq_some_iff.mp opened with ⟨rfl, leftmost⟩
  rintro ⟨front, back, rfl⟩
  apply leftmost front.length (by simp [openMark])
  simp

/-- The text in front of a first tag is settled. -/
theorem FirstTag.settled_before {s before inner rest : List Char}
    (first : FirstTag s before inner rest) : Settled before where
  closed := .plain first.not_openMark_before
  not_half last := by
    rcases first with ⟨after, opened, _⟩
    rcases cut?_eq_some_iff.mp opened with ⟨rfl, leftmost⟩
    rcases List.getLast?_eq_some_iff.mp last with ⟨front, rfl⟩
    apply leftmost front.length (by simp)
    simp [openMark]

/-- A place right behind a text that is not settled is never met: a tag reaches over it. -/
theorem cutFrom_append_of_not_settled (offset : Nat) {s : List Char} (t : List Char)
    (unsettled : ¬ Settled s) :
    cutFrom (some (offset + s.length)) offset (s ++ t) = cutFrom none offset (s ++ t) := by
  induction length : s.length using Nat.strongRecOn generalizing offset s with
  | _ n ih =>
      subst length
      rcases untagged_or_firstTag (s ++ t) with untagged | ⟨before, inner, rest, first⟩
      · rw [cutFrom_of_untagged untagged, cutFrom_of_untagged untagged]
      · have elsewhere : offset + s.length ≠ offset + before.length := by
          intro here
          have isBefore : s = before := by
            have front := first.eq_append
            simp only [List.append_assoc] at front
            exact (List.append_inj front (Nat.add_left_cancel here)).1
          exact unsettled (isBefore ▸ first.settled_before)
        have rest_eq : cutFrom (some (offset + s.length))
            (offset + before.length + inner.length + 4) rest =
              cutFrom none (offset + before.length + inner.length + 4) rest := by
          by_cases inside : before.length + inner.length + 4 ≤ s.length
          · rcases first.exists_of_append inside with ⟨others, rfl, firstOfFront⟩
            have lengths := firstOfFront.length_eq
            have stop_eq : offset + s.length =
                offset + before.length + inner.length + 4 + others.length := by
              omega
            rw [stop_eq]
            exact ih _ firstOfFront.length_rest_lt _
              (fun settled => unsettled (firstOfFront.settled settled)) rfl
          · apply cutFrom_of_behind
            intro place here
            cases here
            omega
        rw [cutFrom_of_firstTag first, cutFrom_of_firstTag first, if_neg (by simpa using elsewhere),
          if_neg (by simp), rest_eq]

end Stencil.Template
