import Stencil.Proofs.Template.Places
import Stencil.Proofs.Template.Seam

/-!
# The declaration of globals

A source is scanned as if its first declaration of globals did not stand in it, provided that the
text in front of the declaration is settled.  Behind a text that leaves opening braces without
closing ones, or that ends in half of a pair, the declaration is inside a tag instead, and nothing
is left out.  No declaration comes about where a settled text and another text meet.
-/

namespace Stencil.Template

open Text

/-! ## Sources without a declaration -/

/-- A declaration of globals stands somewhere in a text. -/
def Declares (s : List Char) : Prop :=
  ∃ list after, globalsMark ++ list ++ closeMark ++ after <:+ s

theorem Declares.of_suffix {s t : List Char} (declares : Declares t) (suffix : t <:+ s) :
    Declares s := by
  rcases declares with ⟨list, after, inside⟩
  exact ⟨list, after, inside.trans suffix⟩

theorem findGlobals?_eq_none_iff {s : List Char} : findGlobals? s = none ↔ ¬ Declares s := by
  constructor
  · rintro notFound ⟨list, after, inside⟩
    rw [List.append_assoc, List.append_assoc] at inside
    cases opened : cut? globalsMark s with
    | none =>
        apply cut?_eq_none_iff.mp opened
        exact (List.prefix_append globalsMark _).isInfix.trans inside.isInfix
    | some parts =>
        rcases parts with ⟨before, rest⟩
        rcases cut?_eq_some_iff.mp opened with ⟨split, leftmost⟩
        rw [List.append_assoc] at split
        rw [split] at inside leftmost
        have behind := suffix_of_clear leftmost (List.prefix_append globalsMark _) inside
        have listInside : list ++ (closeMark ++ after) <:+ rest := by
          apply List.suffix_of_suffix_length_le ((List.suffix_append globalsMark _).trans behind)
            (List.suffix_append globalsMark rest)
          simpa using behind.length_le
        have closed : cut? closeMark rest = none := by
          cases closed : cut? closeMark rest with
          | none => rfl
          | some parts => simp [findGlobals?, opened, closed] at notFound
        apply cut?_eq_none_iff.mp closed
        exact (List.infix_append list closeMark after).trans
          (by simpa using listInside.isInfix)
  · intro noDeclaration
    cases found : findGlobals? s with
    | none => rfl
    | some declaration =>
        exfalso
        simp only [findGlobals?, Option.bind_eq_bind, Option.bind_eq_some_iff] at found
        rcases found with ⟨⟨before, rest⟩, opened, ⟨list, after⟩, closed, _⟩
        apply noDeclaration
        refine ⟨list, after, before, ?_⟩
        have rest_eq : rest = list ++ closeMark ++ after := eq_append_of_cut? closed
        rw [eq_append_of_cut? opened, rest_eq]
        simp only [List.append_assoc]

/-- A declaration in a text with some text without braces in front. -/
theorem Declares.of_prepend {s t : List Char} (declares : Declares (s ++ t))
    (plain : ¬ openMark <:+: s) (notHalf : s.getLast? ≠ some '\x7b') : Declares t := by
  rcases declares with ⟨list, after, ending⟩
  refine ⟨list, after, suffix_of_clear (not_openMark_drop plain notHalf) ?_ ending⟩
  simp only [globalsMark, List.append_assoc]
  exact List.prefix_append openMark _

/-- A declaration that starts in a tag ends in it. -/
theorem Declares.of_firstTag {s t before inner rest : List Char} (declares : Declares (s ++ t))
    (first : FirstTag s before inner rest) : Declares s ∨ Declares (rest ++ t) := by
  rcases declares with ⟨list, after, front, whole_eq⟩
  have split : s ++ t = (before ++ openMark ++ inner) ++ '\x7d' :: '\x7d' :: (rest ++ t) := by
    rw [first.eq_append]
    simp [closeMark]
  rw [split, List.append_assoc globalsMark, List.append_assoc globalsMark] at whole_eq
  rcases List.append_eq_append_iff.mp whole_eq with
    ⟨found, front_eq, found_eq⟩ | ⟨excess, _, excess_eq⟩
  · rcases prefix_of_append_eq (by decide) found_eq with ⟨list, rfl⟩
    refine .inl ⟨list, rest, front, ?_⟩
    rw [first.eq_append, front_eq]
    simp only [List.append_assoc]
  · have ending : globalsMark ++ (list ++ closeMark ++ after) <:+ '\x7d' :: '\x7d' :: (rest ++ t) :=
      ⟨excess, excess_eq.symm⟩
    -- The mark starts with an opening brace, so it starts behind both closing ones.
    rcases List.suffix_cons_iff.mp ending with impossible | ending
    · simp [globalsMark, openMark] at impossible
    · rcases List.suffix_cons_iff.mp ending with impossible | ending
      · simp [globalsMark, openMark] at impossible
      · exact .inr ⟨list, after, by simpa only [List.append_assoc] using ending⟩

/-- Two texts that declare nothing declare nothing together if the first one is settled. -/
theorem Settled.declares_or {s t : List Char} (settled : Settled s)
    (declares : Declares (s ++ t)) : Declares s ∨ Declares t := by
  rcases settled with ⟨closed, notHalf⟩
  induction closed with
  | plain plain => exact .inr (declares.of_prepend plain notHalf)
  | tag first _ ih =>
      rcases declares.of_firstTag first with inFront | behind
      · exact .inl inFront
      · have restNotHalf := fun last => notHalf (first.getLast?_eq.mpr last)
        rcases ih behind restNotHalf with inRest | inSecond
        · refine .inl (inRest.of_suffix ?_)
          rw [first.eq_append]
          exact List.suffix_append _ _
        · exact .inr inSecond

/-! ## The first declaration -/

/-- The first declaration of a source: what stands before it, in it and behind it. -/
structure IsFirstDeclaration (source front list back : List Char) : Prop where
  split : source = front ++ globalsMark ++ list ++ closeMark ++ back
  leftmost : ∀ i < front.length, ¬ globalsMark <+: source.drop i
  nearest : ∀ i < list.length, ¬ closeMark <+: (list ++ closeMark ++ back).drop i

namespace IsFirstDeclaration

variable {source front list back : List Char}

theorem source_eq (first : IsFirstDeclaration source front list back) :
    source = front ++ (globalsMark ++ list ++ closeMark ++ back) := by
  rw [first.split]
  simp only [List.append_assoc]

theorem cut?_list (first : IsFirstDeclaration source front list back) :
    cut? closeMark (list ++ closeMark ++ back) = some (list, back) :=
  cut?_eq_some_iff.mpr ⟨rfl, first.nearest⟩

theorem findGlobals?_eq (first : IsFirstDeclaration source front list back) :
    findGlobals? source = some ⟨front.length, list⟩ := by
  have opened : cut? globalsMark source = some (front, list ++ closeMark ++ back) := by
    refine cut?_eq_some_iff.mpr ⟨?_, first.leftmost⟩
    rw [first.split]
    simp only [List.append_assoc]
  simp only [findGlobals?, opened, first.cut?_list, Option.bind_eq_bind, Option.bind_some]

/-- Where the declaration starts, a tag starts that reaches to its end. -/
theorem firstTag (first : IsFirstDeclaration source front list back) :
    FirstTag (globalsMark ++ list ++ closeMark ++ back) [] ("@globals ".toList ++ list) back := by
  refine ⟨"@globals ".toList ++ (list ++ closeMark ++ back), ?_, ?_⟩
  · refine cut?_eq_some_iff.mpr ⟨?_, by simp⟩
    simp only [globalsMark, List.append_assoc, List.nil_append]
  · rw [closeMark, cut?_append_left (not_cons_prefix_drop (by decide))]
    rw [← closeMark, first.cut?_list]
    rfl

end IsFirstDeclaration

/-- The names that the text of a declaration lists, each of them once. -/
def namesIn (list : List Char) : List String :=
  ((listedNames list).map String.ofList).eraseDups

/-- A declaration of valid names declares each of them once. -/
theorem declaredNames_eq_ok {declaration : Located (List Char)}
    (valid : ∀ name ∈ listedNames declaration.item, Name.isVariable name = true) :
    declaredNames declaration = .ok (namesIn declaration.item) := by
  have noneInvalid : (listedNames declaration.item).find? (fun name => !Name.isVariable name) =
      none := by
    apply List.find?_eq_none.mpr
    intro name mem
    simp [valid name mem]
  simp only [declaredNames, noneInvalid, namesIn]

/-- The marks and the globals of a scanned source. -/
def Scanned.marks (scanned : Scanned) : List Mark × List String :=
  (scanned.pieces.map Piece.mark, scanned.globals)

/-- Behind a settled text the declaration is left out. -/
theorem spelled_cutFrom_declaration {source front list back : List Char}
    (first : IsFirstDeclaration source front list back) (settled : Settled front) :
    spelled (cutFrom (some front.length) 0 source) = spelled (cutFrom none 0 (front ++ back)) := by
  have skip : cutFrom (some front.length) (0 + front.length)
      (globalsMark ++ list ++ closeMark ++ back) =
        cutFrom none (front.length + ("@globals ".toList ++ list).length + 4) back := by
    rw [cutFrom_of_firstTag first.firstTag, if_pos (by simp), List.length_nil, Nat.add_zero,
      Nat.zero_add, cutFrom_of_behind]
    · cases cutFrom none (front.length + ("@globals ".toList ++ list).length + 4) back <;> rfl
    · intro place here
      cases here
      omega
  rw [first.source_eq, cutFrom_append settled (by simp), cutFrom_append settled (by simp), skip]
  cases cutFrom none 0 front with
  | error fault => rfl
  | ok pieces =>
      apply unplaced_bind_congr (spelled_cutFrom _ _ back)
      intro others more others_eq
      exact congrArg Except.ok (map_mark_joinPieces pieces others_eq)

/-- A source with a valid declaration is cut with the place of the declaration in mind. -/
theorem scan_eq_bind {source front list back : List Char}
    (first : IsFirstDeclaration source front list back)
    (valid : ∀ name ∈ listedNames list, Name.isVariable name = true) :
    scan source = (do
      let pieces ← cutFrom (some front.length) 0 source
      .ok ⟨pieces, namesIn list⟩) := by
  have declared : declaredNames ⟨front.length, list⟩ = .ok (namesIn list) :=
    declaredNames_eq_ok valid
  simp only [scan, first.findGlobals?_eq, declared, ok_bind]

/-- A declaration of valid names behind a settled text is removed: the source gives the marks or the
fault of the text around the declaration, and declares the names.  Behind any other text it is not
removed: the source is cut as a source without declarations is. -/
theorem scan_of_isFirstDeclaration {source front list back : List Char}
    (first : IsFirstDeclaration source front list back)
    (valid : ∀ name ∈ listedNames list, Name.isVariable name = true) :
    (Settled front →
        unplaced Scanned.marks (scan source) = unplaced Scanned.marks (do
          let pieces ← cutFrom none 0 (front ++ back)
          .ok ⟨pieces, namesIn list⟩)) ∧
      (¬ Settled front →
        scan source = (do
          let pieces ← cutFrom none 0 source
          .ok ⟨pieces, namesIn list⟩)) := by
  rw [scan_eq_bind first valid]
  constructor
  · intro settled
    apply unplaced_bind_congr (spelled_cutFrom_declaration first settled)
    intro pieces others same
    simp only [unplaced, Scanned.marks, same]
  · intro unsettled
    have same := cutFrom_append_of_not_settled 0
      (globalsMark ++ list ++ closeMark ++ back) unsettled
    rw [Nat.zero_add, ← first.source_eq] at same
    rw [same]

/-- A declaration between a tag with text behind it and half of a pair. -/
theorem scan_declaration_of_settled :
    IsFirstDeclaration (braced ['y'] ++ ['x'] ++ braced "@globals a ,b,,a".toList ++ ['\x7b', 'z'])
        (braced ['y'] ++ ['x']) "a ,b,,a".toList ['\x7b', 'z'] ∧
      (∀ name ∈ listedNames "a ,b,,a".toList, Name.isVariable name = true) ∧
      Settled (braced ['y'] ++ ['x']) ∧
      unplaced Scanned.marks (scan (braced ['y'] ++ ['x'] ++
          braced "@globals a ,b,,a".toList ++ ['\x7b', 'z'])) =
        .ok ([.interpolation "y", .text "x\x7bz"], ["a", "b"]) := by
  have first : IsFirstDeclaration
      (braced ['y'] ++ ['x'] ++ braced "@globals a ,b,,a".toList ++ ['\x7b', 'z'])
      (braced ['y'] ++ ['x']) "a ,b,,a".toList ['\x7b', 'z'] := by
    constructor
    · rfl
    · decide
    · decide
  have listed : listedNames "a ,b,,a".toList = [['a'], ['b'], ['a']] := by
    cbv
  have valid : ∀ name ∈ listedNames "a ,b,,a".toList, Name.isVariable name = true := by
    rw [listed]
    decide
  have settled : Settled (braced ['y'] ++ ['x']) :=
    ⟨.tag ⟨_, rfl, rfl⟩ (.plain (by decide)), by decide⟩
  have names : namesIn "a ,b,,a".toList = ["a", "b"] := by
    rw [namesIn, listed]
    decide
  have untagged : Untagged ['x', '\x7b', 'z'] := by
    intro before after opened
    cases opened
  have cuts : Cuts none 0 (braced ['y'] ++ ['x'] ++ ['\x7b', 'z']) _ :=
    .tag ⟨_, rfl, rfl⟩ (by simp) rfl (.plain untagged)
  refine ⟨first, valid, settled, ?_⟩
  rw [(scan_of_isFirstDeclaration first valid).1 settled, cutFrom_eq_ok_iff.mpr cuts, names]
  rfl

/-- Behind a single brace the declaration is not removed: the brace and the first one of the
declaration open a tag. -/
theorem scan_declaration_behind_brace :
    normalize ('\x7b' :: braced "@globals a".toList) = '\x7b' :: braced "@globals a".toList ∧
      IsFirstDeclaration ('\x7b' :: braced "@globals a".toList) ['\x7b'] ['a'] [] ∧
      (∀ name ∈ listedNames ['a'], Name.isVariable name = true) ∧
      unplaced Scanned.marks (scan ('\x7b' :: braced "@globals a".toList)) =
        .ok ([.interpolation "\x7b@globals a"], ["a"]) ∧
      unplaced Scanned.marks (do
          let pieces ← cutFrom none 0 ['\x7b']
          .ok ⟨pieces, namesIn ['a']⟩) = .ok ([.text "\x7b"], ["a"]) := by
  have listed : listedNames ['a'] = [['a']] := by
    cbv
  have names : namesIn ['a'] = ["a"] := by
    rw [namesIn, listed]
    decide
  have valid : ∀ name ∈ listedNames ['a'], Name.isVariable name = true := by
    rw [listed]
    decide
  have declared : declaredNames ⟨1, ['a']⟩ = .ok ["a"] := by
    rw [declaredNames_eq_ok valid, names]
  have cuts : Cuts (some 1) 0 ('\x7b' :: braced "@globals a".toList) _ :=
    .tag ⟨_, rfl, rfl⟩ (by simp) rfl (.plain untagged_nil)
  have scan_eq : scan ('\x7b' :: braced "@globals a".toList) =
      .ok ⟨[.tag 0 (.interpolation ⟨2, "\x7b@globals a".toList⟩)], ["a"]⟩ :=
    scan_eq_ok_iff.mpr (.inr ⟨⟨1, ['a']⟩, rfl, declared, cuts⟩)
  have untagged : Untagged ['\x7b'] := by
    intro before after opened
    cases opened
  refine ⟨rfl, ⟨rfl, by decide, by decide⟩, valid, ?_, ?_⟩
  · rw [scan_eq]
    rfl
  · rw [cutFrom_of_untagged untagged, names]
    rfl

end Stencil.Template
