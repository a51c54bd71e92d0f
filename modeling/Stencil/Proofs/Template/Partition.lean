import Mathlib.Data.List.Chain
import Mathlib.Order.Bounds.Defs
import Stencil.Proofs.Template.Compile
import Stencil.Proofs.Template.Declaration

/-!
# Nothing is lost in cutting

Written out one after the other, the pieces of a source that declares nothing are the source: a text
is written as it stands, and a tag as the part of the source from its place to the nearest closing
braces.  A source in which no braces are closed is a single text, and renders to itself.
-/

namespace Stencil.Template

open Text

/-! ## Pieces and the source -/

/-- Where a tag that starts at a place ends: behind the first closing braces after its opening
ones. -/
def tagEnd? (source : List Char) (start : Nat) : Option Nat :=
  (findFrom closeMark source (start + 2)).map (· + 2)

/-- The part of a source that a piece was cut from. -/
def Piece.written (source : List Char) : Piece → List Char
  | .text s => s
  | .tag start _ =>
      match tagEnd? source start with
      | some stop => source.extract start stop
      | none => []

/-- The place of a tag. -/
def Piece.start? : Piece → Option Nat
  | .text _ => none
  | .tag start _ => some start

/-- The places of the tags among pieces. -/
def tagStarts (pieces : List Piece) : List Nat :=
  pieces.filterMap Piece.start?

/-- Opening braces stand at a place, there are closing ones for them, and the place is in none of
some earlier tags. -/
structure Opens (source : List Char) (earlier : List Nat) (place : Nat) : Prop where
  opened : openMark <+: source.drop place
  closed : (tagEnd? source place).isSome
  outside : ∀ start ∈ earlier, ∀ stop, tagEnd? source start = some stop →
    ¬ (start ≤ place ∧ place < stop)

/-- No opening braces of a text have closing ones behind them. -/
def Unclosed (s : List Char) : Prop :=
  ∀ i, openMark <+: s.drop i → ¬ closeMark <:+: s.drop (i + 2)

/-- Two pieces are not both text. -/
def Piece.Apart : Piece → Piece → Prop
  | .text _, .text _ => False
  | _, _ => True

/-- Pieces that a source is made of, with nothing left out and nothing in two of them. -/
structure Partition (source : List Char) (pieces : List Piece) : Prop where
  written : pieces.flatMap (Piece.written source) = source
  starts : ∀ earlier start later, tagStarts pieces = earlier ++ start :: later →
    IsLeast {place | Opens source earlier place} start
  nonempty : ∀ s, .text s ∈ pieces → s ≠ []
  apart : pieces.IsChain Piece.Apart
  plain : ∀ s, .text s ∈ pieces.dropLast → ¬ openMark <:+: s
  unclosed : ∀ s, .text s ∈ pieces → Unclosed s

/-! ## Text in front of pieces -/

variable {source s before inner rest : List Char} {pieces : List Piece} {offset : Nat}

theorem flatMap_written_prependText (source s : List Char) (pieces : List Piece) :
    (prependText s pieces).flatMap (Piece.written source) =
      s ++ pieces.flatMap (Piece.written source) := by
  unfold prependText
  split
  · rfl
  · simp [Piece.written]
  · simp [Piece.written]

theorem tagStarts_prependText (s : List Char) (pieces : List Piece) :
    tagStarts (prependText s pieces) = tagStarts pieces := by
  unfold prependText
  split
  · rfl
  · rfl
  · rfl

/-- A text in front of a tag is a piece of its own, unless it is empty. -/
theorem prependText_tag (s : List Char) (tag : Tag) (pieces : List Piece) :
    prependText s (.tag offset tag :: pieces) =
      prependText s [] ++ .tag offset tag :: pieces := by
  cases s <;> rfl

theorem text_mem_prependText_nil {s t : List Char} :
    .text t ∈ prependText s [] ↔ s ≠ [] ∧ t = s := by
  cases s <;> simp [prependText]

/-! ## Texts without tags -/

theorem untagged_iff_unclosed : Untagged s ↔ Unclosed s := by
  constructor
  · intro untagged i here closed
    cases opened : cut? openMark s with
    | none =>
        apply cut?_eq_none_iff.mp opened
        exact here.isInfix.trans (List.drop_suffix i s).isInfix
    | some parts =>
        rcases parts with ⟨before, after⟩
        rcases cut?_eq_some_iff.mp opened with ⟨split, leftmost⟩
        have behind : before.length ≤ i := Nat.le_of_not_lt fun bound => leftmost i bound here
        have ending : s.drop (i + 2) <:+ after := by
          refine List.suffix_of_suffix_length_le (List.drop_suffix (i + 2) s)
            ⟨before ++ openMark, split.symm⟩ ?_
          rw [split]
          simp [openMark]
          omega
        apply cut?_eq_none_iff.mp (untagged before after opened)
        exact closed.trans ending.isInfix
  · intro unclosed before after opened
    have split := eq_append_of_cut? opened
    have here : s.drop before.length = openMark ++ after := by
      rw [split, List.append_assoc, List.drop_left]
    have behind : s.drop (before.length + 2) = after := by
      rw [← List.drop_drop, here]
      rfl
    rw [cut?_eq_none_iff, ← behind]
    exact unclosed before.length (here ▸ List.prefix_append openMark after)

theorem unclosed_of_plain (plain : ¬ openMark <:+: s) : Unclosed s :=
  untagged_iff_unclosed.mp (untagged_of_plain plain)

/-! ## One tag -/

theorem length_braced (inner : List Char) : (braced inner).length = inner.length + 4 := by
  simp [braced, openMark, closeMark]

/-- What stands at the place of the first tag. -/
theorem FirstTag.drop_start (first : FirstTag s before inner rest)
    (ahead : source.drop offset = s) :
    source.drop (offset + before.length) = braced inner ++ rest := by
  rw [← List.drop_drop, ahead, first.eq_append, braced]
  simp only [List.append_assoc, List.drop_left]

/-- What stands behind the first tag. -/
theorem FirstTag.drop_stop (first : FirstTag s before inner rest)
    (ahead : source.drop offset = s) :
    source.drop (offset + before.length + inner.length + 4) = rest := by
  rw [Nat.add_assoc, ← length_braced, ← List.drop_drop, first.drop_start ahead, List.drop_left]

theorem FirstTag.tagEnd?_eq (first : FirstTag s before inner rest)
    (ahead : source.drop offset = s) :
    tagEnd? source (offset + before.length) =
      some (offset + before.length + inner.length + 4) := by
  have closed : cut? closeMark (inner ++ closeMark ++ rest) = some (inner, rest) := by
    rcases first with ⟨after, _, closed⟩
    rw [← eq_append_of_cut? closed]
    exact closed
  have behind : source.drop (offset + before.length + 2) = inner ++ closeMark ++ rest := by
    rw [← List.drop_drop, first.drop_start ahead]
    simp [braced, openMark]
  rw [tagEnd?, findFrom, behind, findFirst_eq_map_cut?, closed]
  simp only [Option.map_some]
  congr 1
  omega

theorem FirstTag.written_eq (first : FirstTag s before inner rest) (ahead : source.drop offset = s)
    (tag : Tag) : Piece.written source (.tag (offset + before.length) tag) = braced inner := by
  have length_eq : offset + before.length + inner.length + 4 - (offset + before.length) =
      (braced inner).length := by
    rw [length_braced]
    omega
  rw [Piece.written, first.tagEnd?_eq ahead]
  simp only [List.extract_eq_take_drop, first.drop_start ahead, length_eq, List.take_left]

/-- The first tag starts at the first braces that have closing ones and are not in earlier tags. -/
theorem FirstTag.isLeast (first : FirstTag s before inner rest) (ahead : source.drop offset = s)
    {earlier : List Nat} (behind : ∀ place < offset, ¬ Opens source earlier place)
    (ended : ∀ start ∈ earlier, ∀ stop, tagEnd? source start = some stop → stop ≤ offset) :
    IsLeast {place | Opens source earlier place} (offset + before.length) := by
  refine ⟨⟨?_, ?_, ?_⟩, ?_⟩
  · rw [first.drop_start ahead, braced, List.append_assoc, List.append_assoc]
    exact List.prefix_append openMark _
  · rw [first.tagEnd?_eq ahead]
    rfl
  · intro start mem stop stop_eq inside
    have := ended start mem stop stop_eq
    omega
  · intro place opens
    apply Nat.le_of_not_lt
    intro further
    rcases Nat.lt_or_ge place offset with outside | inside
    · exact behind place outside opens
    · rcases first with ⟨after, opened, _⟩
      rcases cut?_eq_some_iff.mp opened with ⟨_, leftmost⟩
      apply leftmost (place - offset) (by omega)
      rw [← ahead, List.drop_drop, Nat.add_sub_cancel' inside]
      exact opens.opened

/-! ## All pieces -/

theorem written_of_cuts (cuts : Cuts none offset s pieces) (ahead : source.drop offset = s) :
    pieces.flatMap (Piece.written source) = s := by
  induction cuts with
  | plain _ => rw [flatMap_written_prependText, List.flatMap_nil, List.append_nil]
  | skip _ impossible _ _ => cases impossible
  | tag first _ _ _ ih =>
      rw [flatMap_written_prependText, List.flatMap_cons, first.written_eq ahead,
        ih (first.drop_stop ahead), first.eq_append, braced]
      simp only [List.append_assoc]

/-- Each tag starts where the next braces open, given that none open further left than the text
but those of earlier tags. -/
theorem starts_of_cuts (cuts : Cuts none offset s pieces) (ahead : source.drop offset = s)
    {earlier : List Nat} (behind : ∀ place < offset, ¬ Opens source earlier place)
    (ended : ∀ start ∈ earlier, ∀ stop, tagEnd? source start = some stop → stop ≤ offset)
    {front : List Nat} {start : Nat} {back : List Nat}
    (starts : tagStarts pieces = front ++ start :: back) :
    IsLeast {place | Opens source (earlier ++ front) place} start := by
  induction cuts generalizing earlier front with
  | plain _ =>
      rw [tagStarts_prependText] at starts
      cases front <;> cases starts
  | skip _ impossible _ _ => cases impossible
  | @tag offset s before inner rest tag pieces first _ _ _ ih =>
      have least := first.isLeast ahead behind ended
      rw [tagStarts_prependText] at starts
      cases front with
      | nil =>
          rw [List.append_nil]
          rcases List.cons.inj starts with ⟨rfl, _⟩
          exact least
      | cons place front =>
          rcases List.cons.inj starts with ⟨rfl, further⟩
          have stop_eq := first.tagEnd?_eq ahead
          rw [List.append_cons]
          -- Until the tag ends nothing else opens, neither in front of the tag nor in it.
          refine ih (first.drop_stop ahead) ?_ ?_ further
          · intro place bound opens
            have opensBefore : Opens source earlier place :=
              ⟨opens.opened, opens.closed, fun other mem =>
                opens.outside other (List.mem_append_left _ mem)⟩
            exact opens.outside _ (by simp) _ stop_eq ⟨least.2 opensBefore, bound⟩
          · intro other mem stop other_eq
            rcases List.mem_append.mp mem with mem | mem
            · have := ended other mem stop other_eq
              omega
            · rw [List.mem_singleton.mp mem, stop_eq] at other_eq
              cases other_eq
              exact Nat.le_refl _

theorem apart_of_cuts (cuts : Cuts none offset s pieces) : pieces.IsChain Piece.Apart := by
  induction cuts with
  | @plain _ s _ => cases s <;> simp [prependText]
  | skip _ impossible _ _ => cases impossible
  | @tag offset s before inner rest tag pieces _ _ _ _ ih =>
      have chain : (Piece.tag (offset + before.length) tag :: pieces).IsChain Piece.Apart := by
        cases pieces with
        | nil => simp
        | cons piece pieces => exact List.isChain_cons_cons.mpr ⟨by simp [Piece.Apart], ih⟩
      cases before with
      | nil => exact chain
      | cons c before => exact List.isChain_cons_cons.mpr ⟨by simp [Piece.Apart], chain⟩

theorem plain_of_cuts (cuts : Cuts none offset s pieces) :
    ∀ t, .text t ∈ pieces.dropLast → ¬ openMark <:+: t := by
  induction cuts with
  | @plain _ s _ => cases s <;> simp [prependText]
  | skip _ impossible _ _ => cases impossible
  | @tag offset s before inner rest tag pieces first _ _ _ ih =>
      intro t mem
      rw [prependText_tag, List.dropLast_append_cons, List.mem_append] at mem
      rcases mem with mem | mem
      · rcases text_mem_prependText_nil.mp mem with ⟨_, rfl⟩
        exact first.not_openMark_before
      · cases pieces with
        | nil => cases mem
        | cons piece pieces =>
            rw [List.dropLast_cons_cons] at mem
            rcases List.mem_cons.mp mem with impossible | mem
            · cases impossible
            · exact ih t mem

/-- A text among the pieces is the text in front of a tag or the text behind the last one. -/
theorem text_of_cuts (cuts : Cuts none offset s pieces) :
    ∀ t, .text t ∈ pieces → t ≠ [] ∧ Unclosed t := by
  induction cuts with
  | plain untagged =>
      intro t mem
      rcases text_mem_prependText_nil.mp mem with ⟨nonempty, rfl⟩
      exact ⟨nonempty, untagged_iff_unclosed.mp untagged⟩
  | skip _ impossible _ _ => cases impossible
  | tag first _ _ _ ih =>
      intro t mem
      rw [prependText_tag, List.mem_append, List.mem_cons] at mem
      rcases mem with mem | impossible | mem
      · rcases text_mem_prependText_nil.mp mem with ⟨nonempty, rfl⟩
        exact ⟨nonempty, unclosed_of_plain first.not_openMark_before⟩
      · cases impossible
      · exact ih t mem

theorem partition_of_cuts (cuts : Cuts none 0 source pieces) : Partition source pieces where
  written := written_of_cuts cuts rfl
  starts earlier start later starts := by
    have least := @starts_of_cuts source source pieces 0 cuts rfl [] (by simp) (by simp)
      earlier start later starts
    rwa [List.nil_append] at least
  nonempty t mem := (text_of_cuts cuts t mem).1
  apart := apart_of_cuts cuts
  plain := plain_of_cuts cuts
  unclosed t mem := (text_of_cuts cuts t mem).2

/-! ## Sources without tags -/

/-- A declaration is a tag. -/
theorem findGlobals?_of_unclosed (unclosed : Unclosed s) : findGlobals? s = none := by
  apply findGlobals?_eq_none_iff.mpr
  rintro ⟨list, after, front, rfl⟩
  apply unclosed front.length
  · rw [List.drop_left]
    simp only [globalsMark, List.append_assoc]
    exact List.prefix_append openMark _
  · rw [← List.drop_drop, List.drop_left]
    exact ⟨"@globals ".toList ++ list, after, by simp [globalsMark, openMark]⟩

theorem exists_nodesOf_text (s : List Char) :
    ∃ nodes, nodesOf (prependText s []) = .ok nodes ∧
      ∀ env, renderNodes env nodes = .ok (String.ofList s) := by
  cases s with
  | nil => exact ⟨[], rfl, fun _ => rfl⟩
  | cons c rest =>
      refine ⟨[.text (String.ofList (c :: rest))], rfl, fun env => ?_⟩
      simp only [renderNodes, renderNode, ok_bind, String.append_empty]

theorem exists_compile_of_unclosed {source : String}
    (unclosed : Unclosed (normalize source.toList)) :
    ∃ template, compile source = .ok template ∧ ∀ host now context globals,
      template.render host now context globals =
        .ok (String.ofList (normalize source.toList)) := by
  have noDeclaration := findGlobals?_of_unclosed unclosed
  have untagged := untagged_iff_unclosed.mpr unclosed
  rcases exists_nodesOf_text (normalize source.toList) with ⟨nodes, built, render_eq⟩
  refine ⟨_, (compile_eq_ok_iff_of_findGlobals? noDeclaration).mpr
    ⟨_, nodes, cutFrom_of_untagged untagged, built, rfl⟩, ?_⟩
  intro host now context globals
  exact render_eq _

/-! ## Main result -/

/-- A source that declares nothing is made of the pieces that it is cut into.  A source in which no
braces are closed, line breaks aside, renders to itself. -/
theorem partition_of_scan :
    (∀ source scanned, findGlobals? source = none → scan source = .ok scanned →
        Partition source scanned.pieces) ∧
      ∀ source : String, Unclosed (normalize source.toList) →
        ∃ template, compile source = .ok template ∧ ∀ host now context globals,
          template.render host now context globals =
            .ok (String.ofList (normalize source.toList)) := by
  constructor
  · intro source scanned noDeclaration scan_eq
    rcases scan_eq_ok_iff.mp scan_eq with ⟨_, _, cuts⟩ | ⟨declaration, found, _⟩
    · exact partition_of_cuts cuts
    · rw [noDeclaration] at found
      cases found
  · intro source unclosed
    exact exists_compile_of_unclosed unclosed

/-- Braces on both sides of a tag, and opening braces behind closing ones. -/
theorem partition_of_scan_braces :
    findGlobals? (['\x7d', '\x7b'] ++ braced ['y'] ++ ['\x7d'] ++ openMark ++ ['z']) = none ∧
      scan (['\x7d', '\x7b'] ++ braced ['y'] ++ ['\x7d'] ++ openMark ++ ['z']) =
        .ok ⟨[.text ['\x7d'], .tag 1 (.interpolation ⟨3, ['\x7b', 'y']⟩),
          .text (['\x7d'] ++ openMark ++ ['z'])], []⟩ ∧
      Partition (['\x7d', '\x7b'] ++ braced ['y'] ++ ['\x7d'] ++ openMark ++ ['z'])
        [.text ['\x7d'], .tag 1 (.interpolation ⟨3, ['\x7b', 'y']⟩),
          .text (['\x7d'] ++ openMark ++ ['z'])] ∧
      Unclosed (normalize (String.ofList (closeMark ++ openMark ++ ['\x7d'])).toList) ∧
      ∃ template, compile (String.ofList (closeMark ++ openMark ++ ['\x7d'])) = .ok template ∧
        ∀ host now context globals, template.render host now context globals =
          .ok (String.ofList (closeMark ++ openMark ++ ['\x7d'])) := by
  have untagged : Untagged (['\x7d'] ++ openMark ++ ['z']) := by
    intro before after opened
    cases opened
    rfl
  have cuts : Cuts none 0
      (['\x7d', '\x7b'] ++ braced ['y'] ++ ['\x7d'] ++ openMark ++ ['z']) _ :=
    .tag ⟨_, rfl, rfl⟩ (by simp) rfl (.plain untagged)
  have scan_eq : scan (['\x7d', '\x7b'] ++ braced ['y'] ++ ['\x7d'] ++ openMark ++ ['z']) =
      .ok ⟨_, []⟩ :=
    scan_eq_ok_iff.mpr (.inl ⟨rfl, rfl, cuts⟩)
  have unclosed :
      Unclosed (normalize (String.ofList (closeMark ++ openMark ++ ['\x7d'])).toList) := by
    apply untagged_iff_unclosed.mp
    intro before after opened
    cases opened
    rfl
  refine ⟨rfl, scan_eq, ?_, unclosed, ?_⟩
  · exact partition_of_scan.1 _ _ rfl scan_eq
  · exact partition_of_scan.2 _ unclosed

/-- Line breaks are removed before braces are looked for, and braces can close that way. -/
theorem render_across_line_break :
    ¬ openMark <:+: ['\x7b', '\n', '\x7b', 'a', '\x7d', '\x7d'] ∧
      Unclosed ['\x7b', '\n', '\x7b', 'a', '\x7d', '\x7d'] ∧
      ∃ template,
        compile (String.ofList ['\x7b', '\n', '\x7b', 'a', '\x7d', '\x7d']) = .ok template ∧
        template.render (.standard []) ⟨0, 0⟩ .empty .empty = .ok "undefined" ∧
        String.ofList (normalize ['\x7b', '\n', '\x7b', 'a', '\x7d', '\x7d']) ≠ "undefined" := by
  have plain : ¬ openMark <:+: ['\x7b', '\n', '\x7b', 'a', '\x7d', '\x7d'] := by
    decide
  have normalized : normalize
      (String.ofList ['\x7b', '\n', '\x7b', 'a', '\x7d', '\x7d']).toList = braced ['a'] := by
    rw [String.toList_ofList]
    rfl
  have cuts : Cuts none 0 (braced ['a']) _ :=
    .tag ⟨_, rfl, rfl⟩ (by simp) rfl (.plain untagged_nil)
  have parsed : Expr.parse "a" = .ok (.var "a") := by
    cbv
  have built : nodesOf [.tag 0 (.interpolation ⟨2, ['a']⟩)] =
      .ok [.interpolation ⟨"a", .var "a"⟩ true] :=
    nodesOf_eq_ok_iff.mpr ⟨rfl, ⟨parsed, rfl⟩, trivial⟩
  have compiled := (compile_eq_ok_iff_of_findGlobals? (normalized ▸ rfl)).mpr
    ⟨_, _, normalized ▸ cutFrom_eq_ok_iff.mpr cuts, built, rfl⟩
  have undefined : ((ofScanned (String.ofList ['\x7b', '\n', '\x7b', 'a', '\x7d', '\x7d'])
      ⟨[.tag 0 (.interpolation ⟨2, ['a']⟩)], []⟩ [.interpolation ⟨"a", .var "a"⟩ true]).environment
        (.standard []) ⟨0, 0⟩ .empty .empty).lookup "a" = .undefined := by
    rfl
  have escaped : escapeHtml Value.undefined.text = "undefined" :=
    rfl
  refine ⟨plain, unclosed_of_plain plain, _, compiled, ?_, by decide⟩
  simp only [render, ofScanned, renderNodes, renderNode, Expr.eval, ok_bind] at undefined ⊢
  rw [undefined, escaped]
  rfl

end Stencil.Template
