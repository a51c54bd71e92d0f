import Stencil.Proofs.Expr.Mention
import Stencil.Proofs.FirstPlaces
import Stencil.Proofs.Template.Compile
import Stencil.Proofs.Template.Declaration
import Stencil.Proofs.Template.LoopBody
import Stencil.Proofs.Text.Search

/-!
# Which names are required

A name is required exactly when it occurs somewhere in the template outside all loops that bind it,
and neither the host nor the declaration of the template answers for it.  Resolution walks over the
tree of the template; the occurrences are places in its marks.  Both meet in the rows of names that
the marks mention, from which the free names are read off in order.
-/

namespace Stencil.Template

open Text

/-! ## Free occurrences -/

/-- A token of the expression in a mark mentions a name. -/
def Mark.Mentions (mark : Mark) (place : Nat) (name : String) : Prop :=
  ∃ text lexemes, mark.source? = some text ∧ Expr.scan text = .ok lexemes ∧
    Expr.Mentions (Expr.tokensOf lexemes) place name

/-- A name occurs free at a place, which is a mark of the template and a token of the expression in
that mark: the token mentions the name, and the mark is in the body of no loop that binds it. -/
structure OccursFree (word : List Mark) (place : Nat ×ₗ Nat) (name : String) : Prop where
  mentioned : ∃ mark, word[(ofLex place).1]? = some mark ∧ mark.Mentions (ofLex place).2 name
  free : ¬ InBody name word (ofLex place).1

/-- For each token of an expression the name that it mentions. -/
def slotsOfText (text : String) : List (Option String) :=
  match Expr.scan text with
  | .ok lexemes => Expr.nameSlots false (Expr.tokensOf lexemes)
  | .error _ => []

/-- For each token of the expression in a mark the name that it mentions, unless it is bound. -/
def Mark.slots (bound : List String) (mark : Mark) : List (Option String) :=
  ((mark.source?.map slotsOfText).getD []).map (Option.filter fun name => !bound.contains name)

/-- The names that the expressions of some marks mention outside the loops that bind them, token by
token and mark by mark. -/
def rows (bound : List String) : List Mark → List (List (Option String))
  | [] => []
  | mark :: rest => mark.slots bound :: rows (mark.enter bound) rest

theorem getElem?_slotsOfText_iff {text name : String} {place : Nat} :
    (slotsOfText text)[place]? = some (some name) ↔
      ∃ lexemes, Expr.scan text = .ok lexemes ∧
        Expr.Mentions (Expr.tokensOf lexemes) place name := by
  rw [slotsOfText]
  cases Expr.scan text with
  | error fault => simp
  | ok lexemes => simp [Expr.getElem?_nameSlots_iff]

theorem getElem?_slots_iff {bound : List String} {mark : Mark} {name : String} {place : Nat} :
    (mark.slots bound)[place]? = some (some name) ↔ mark.Mentions place name ∧ name ∉ bound := by
  rw [Mark.slots, Mark.Mentions]
  cases mark.source? with
  | none => simp
  | some text => simp [Option.filter_eq_some_iff, getElem?_slotsOfText_iff]

theorem getElem?_rows (bound : List String) (word : List Mark) (place : Nat) :
    (rows bound word)[place]? =
      word[place]?.map (Mark.slots (boundBehind bound (word.take place))) := by
  induction word generalizing bound place with
  | nil => rfl
  | cons mark rest ih =>
      cases place with
      | zero => rfl
      | succ before => simp [rows, ih]

/-- Where a name is mentioned, the open loops are those whose bodies the place is in. -/
theorem Mark.Mentions.mem_boundBehind_iff {word : List Mark} (balanced : Balanced word)
    {mark : Mark} {index place : Nat} {name other : String} (markAt : word[index]? = some mark)
    (mentions : mark.Mentions place name) :
    other ∈ boundBehind [] (word.take index) ↔ InBody other word index := by
  apply Template.mem_boundBehind_iff balanced
  rcases mentions with ⟨text, _, source, _⟩
  rw [markAt]
  rintro ⟨⟩
  cases source

/-- The names in the rows of balanced marks occur free at their places. -/
theorem getElem?_rows_iff_occursFree {word : List Mark} (balanced : Balanced word)
    {place : Nat ×ₗ Nat} {name : String} :
    (∃ row, (rows [] word)[(ofLex place).1]? = some row ∧
        row[(ofLex place).2]? = some (some name)) ↔ OccursFree word place name := by
  simp only [getElem?_rows, Option.map_eq_some_iff]
  constructor
  · rintro ⟨_, ⟨mark, markAt, rfl⟩, found⟩
    rcases getElem?_slots_iff.mp found with ⟨mentions, unbound⟩
    constructor
    · exact ⟨mark, markAt, mentions⟩
    · rwa [mentions.mem_boundBehind_iff balanced markAt] at unbound
  · rintro ⟨⟨mark, markAt, mentions⟩, free⟩
    refine ⟨_, ⟨mark, markAt, rfl⟩, getElem?_slots_iff.mpr ⟨mentions, ?_⟩⟩
    rwa [mentions.mem_boundBehind_iff balanced markAt]

/-! ## The walk over the tree -/

theorem reduceOption_map_filter (keep : String → Bool) (slots : List (Option String)) :
    (slots.map (Option.filter keep)).reduceOption = slots.reduceOption.filter keep := by
  induction slots with
  | nil => rfl
  | cons slot rest ih =>
      cases slot with
      | none => simpa using ih
      | some name => cases kept : keep name <;> simp [Option.filter, kept, ih]

theorem reduceOption_slots_of_isParsed {source : Source} (isParsed : IsParsed source) (mark : Mark)
    (isSource : mark.source? = some source.text) (bound : List String) :
    (mark.slots bound).reduceOption = unbound bound source := by
  rcases Expr.mentioned_of_parse isParsed with ⟨lexemes, scanned, names_eq⟩
  have slots_eq : (slotsOfText source.text).reduceOption = source.expr.names := by
    rw [slotsOfText, scanned]
    exact names_eq
  rw [Mark.slots, isSource, Option.map_some, Option.getD_some, reduceOption_map_filter, slots_eq,
    unbound]

theorem reduceOption_slots_of_isInterpolated {source : Source}
    (interpolated : IsInterpolated source) (bound : List String) :
    ((Mark.interpolation source.text).slots bound).reduceOption = unbound bound source := by
  by_cases empty : source.text = ""
  · rw [IsInterpolated, if_pos empty] at interpolated
    have noSlot : slotsOfText "" = [none] := by
      rw [slotsOfText, Expr.scan, Expr.scanFrom]
      rfl
    rw [Mark.slots, Mark.source?, Option.map_some, Option.getD_some, empty, noSlot, unbound,
      interpolated]
    rfl
  · rw [IsInterpolated, if_neg empty] at interpolated
    exact reduceOption_slots_of_isParsed interpolated _ rfl bound

/-- The names in the rows of some marks, in order. -/
def namesInRows (bound : List String) (word : List Mark) : List String :=
  (rows bound word).flatMap List.reduceOption

theorem namesInRows_cons (bound : List String) (mark : Mark) (rest : List Mark) :
    namesInRows bound (mark :: rest) =
      (mark.slots bound).reduceOption ++ namesInRows (mark.enter bound) rest :=
  rfl

/-- A mark without an expression has no names in its row. -/
theorem namesInRows_cons_of_none {mark : Mark} (noSource : mark.source? = none)
    (bound : List String) (rest : List Mark) :
    namesInRows bound (mark :: rest) = namesInRows (mark.enter bound) rest := by
  rw [namesInRows_cons, Mark.slots, noSource]
  rfl

mutual

/-- The marks of a node mention the free names of the node, whatever follows. -/
theorem namesInRows_marks_append : (node : Node) → Faithful node → ∀ bound rest,
    namesInRows bound (marks node ++ rest) = freeNames bound node ++ namesInRows bound rest
  | .text _, _, bound, rest => rfl
  | .interpolation source _, faithful, bound, rest => by
      have names_eq := reduceOption_slots_of_isInterpolated faithful.1 bound
      rw [marks, List.singleton_append, namesInRows_cons, names_eq, freeNames]
      rfl
  | .index, _, bound, rest => rfl
  | .ifThen condition body, faithful, bound, rest => by
      have condition_eq := reduceOption_slots_of_isParsed faithful.1 (.ifOpen condition.text) rfl
      have body_eq := namesInRows_marksOfAll_append body faithful.2
      have closing := namesInRows_cons_of_none (rfl : Mark.ifClose.source? = none)
      simp only [marks, List.cons_append, List.append_assoc, List.nil_append]
      rw [namesInRows_cons, condition_eq, Mark.enter, body_eq, closing, Mark.enter, freeNames,
        List.append_assoc]
  | .ifElse condition body alternative, faithful, bound, rest => by
      have condition_eq := reduceOption_slots_of_isParsed faithful.1 (.ifOpen condition.text) rfl
      have body_eq := namesInRows_marksOfAll_append body faithful.2.1
      have turning := namesInRows_cons_of_none (rfl : Mark.ifElse.source? = none)
      have alternative_eq := namesInRows_marksOfAll_append alternative faithful.2.2
      have closing := namesInRows_cons_of_none (rfl : Mark.ifClose.source? = none)
      simp only [marks, List.cons_append, List.append_assoc, List.nil_append]
      rw [namesInRows_cons, condition_eq, Mark.enter, body_eq, turning, Mark.enter, alternative_eq,
        closing, Mark.enter, freeNames, List.append_assoc, List.append_assoc]
  | .each loopVar collection body, faithful, bound, rest => by
      have collection_eq := reduceOption_slots_of_isParsed faithful.1
        (.eachOpen loopVar collection.text) rfl
      have body_eq := namesInRows_marksOfAll_append body faithful.2
      have closing := namesInRows_cons_of_none (rfl : Mark.eachClose.source? = none)
      simp only [marks, List.cons_append, List.append_assoc, List.nil_append]
      rw [namesInRows_cons, collection_eq, Mark.enter, body_eq, closing, Mark.enter, List.tail_cons,
        freeNames, List.append_assoc]

theorem namesInRows_marksOfAll_append : (nodes : List Node) → FaithfulAll nodes → ∀ bound rest,
    namesInRows bound (marksOfAll nodes ++ rest) =
      freeNamesOfAll bound nodes ++ namesInRows bound rest
  | [], _, bound, rest => rfl
  | node :: others, faithful, bound, rest => by
      rw [marksOfAll, freeNamesOfAll, List.append_assoc, namesInRows_marks_append node faithful.1,
        namesInRows_marksOfAll_append others faithful.2, List.append_assoc]

end

theorem freeNamesOfAll_eq_namesInRows {nodes : List Node} (faithful : FaithfulAll nodes) :
    freeNamesOfAll [] nodes = namesInRows [] (marksOfAll nodes) := by
  have walked := namesInRows_marksOfAll_append nodes faithful [] []
  rw [List.append_nil] at walked
  rw [walked]
  exact (List.append_nil _).symm

/-- The required names are those that occur free and that nobody else answers for. -/
theorem listsOnce_requiredNames {nodes : List Node} (faithful : FaithfulAll nodes)
    (declared : List String) :
    ListsOnce (fun place name => OccursFree (marksOfAll nodes) place name ∧
        Host.isGlobal name = false ∧ name ∉ declared) (requiredNames declared nodes) := by
  have free := listsOnce_flatMap_reduceOption (rows [] (marksOfAll nodes))
  simp only [getElem?_rows_iff_occursFree (balanced_marksOfAll nodes)] at free
  have required := free.filter fun name => !(Host.isGlobal name || declared.contains name)
  rw [← namesInRows, ← freeNamesOfAll_eq_namesInRows faithful, ← eraseDups_filter,
    ← requiredNames_eq faithful] at required
  simpa using required

/-! ## Declared names -/

/-- A name is declared at a position: it is the trimmed part at that position between the commas of
the first declaration, and is not blank. -/
def IsDeclaredAt (source : List Char) (index : Nat) (name : String) : Prop :=
  ∃ front list back parts part, IsFirstDeclaration source front list back ∧
    Splits [','] list parts ∧ parts[index]? = some part ∧ trim part = name.toList ∧ name ≠ ""

/-- For each part of a declaration the name that it declares. -/
def declaredSlots (list : List Char) : List (Option String) :=
  (splitOn [','] list).map fun part =>
    if trim part = [] then none else some (String.ofList (trim part))

theorem reduceOption_declaredSlots (list : List Char) :
    (declaredSlots list).reduceOption = (listedNames list).map String.ofList := by
  rw [declaredSlots, listedNames]
  induction splitOn [','] list with
  | nil => rfl
  | cons part rest ih =>
      by_cases blank : trim part = []
      · simpa [blank] using ih
      · simpa [blank] using ih

theorem exists_isFirstDeclaration {source : List Char} {declaration : Located (List Char)}
    (found : findGlobals? source = some declaration) :
    ∃ front back, IsFirstDeclaration source front declaration.item back := by
  simp only [findGlobals?, Option.bind_eq_bind, Option.bind_eq_some_iff] at found
  rcases found with ⟨⟨front, behind⟩, opened, ⟨list, back⟩, closed, same⟩
  cases same
  rcases cut?_eq_some_iff.mp opened with ⟨split, leftmost⟩
  rcases cut?_eq_some_iff.mp closed with ⟨behind_eq, nearest⟩
  dsimp only at behind_eq nearest
  rw [behind_eq] at split nearest
  refine ⟨front, back, ⟨?_, leftmost, nearest⟩⟩
  rw [split]
  simp only [List.append_assoc]

theorem getElem?_declaredSlots_iff {source : List Char} {declaration : Located (List Char)}
    (found : findGlobals? source = some declaration) {index : Nat} {name : String} :
    (declaredSlots declaration.item)[index]? = some (some name) ↔
      IsDeclaredAt source index name := by
  rw [declaredSlots, List.getElem?_map, Option.map_eq_some_iff]
  constructor
  · rintro ⟨part, partAt, isName⟩
    rcases exists_isFirstDeclaration found with ⟨front, back, first⟩
    have splits := splits_splitOn (List.cons_ne_nil ',' []) declaration.item
    split at isName
    · cases isName
    · rename_i filled
      cases isName
      refine ⟨front, _, back, _, part, first, splits, partAt, by simp, ?_⟩
      simpa using filled
  · rintro ⟨front, list, back, parts, part, first, splits, partAt, trimmed, nonempty⟩
    rw [first.findGlobals?_eq] at found
    cases found
    have splitOn_eq := (splits_splitOn (List.cons_ne_nil ',' []) list).unique splits
    refine ⟨part, splitOn_eq ▸ partAt, ?_⟩
    rw [trimmed, if_neg (by simpa using nonempty), String.ofList_toList]

theorem eq_namesIn_of_declaredNames {declaration : Located (List Char)} {names : List String}
    (declared : declaredNames declaration = .ok names) : names = namesIn declaration.item := by
  simp only [declaredNames] at declared
  split at declared
  · cases declared
  · cases declared
    rfl

/-- The globals of a scanned source are the names of its first declaration. -/
theorem listsOnce_globals {source : List Char} {scanned : Scanned}
    (scan_eq : scan source = .ok scanned) : ListsOnce (IsDeclaredAt source) scanned.globals := by
  rcases scan_eq_ok_iff.mp scan_eq with ⟨notFound, none_eq, _⟩ | ⟨declaration, found, declared, _⟩
  · have nowhere : ∀ index name, ¬ IsDeclaredAt source index name := by
      rintro index name ⟨front, list, back, parts, part, first, _⟩
      rw [first.findGlobals?_eq] at notFound
      cases notFound
    rw [none_eq]
    constructor
    · simp [nowhere]
    · exact List.nodup_nil
    · exact List.Pairwise.nil
  · rw [eq_namesIn_of_declaredNames declared, namesIn, ← reduceOption_declaredSlots]
    have once := listsOnce_reduceOption (declaredSlots declaration.item)
    simpa only [getElem?_declaredSlots_iff found] using once

/-! ## The whole template -/

/-- The required names of a template are the names that occur in its expressions outside all loops
that bind them and that are neither globals of the host nor declared, and its declared names are
those that its first declaration lists.  Both come without repetitions and in the order of their
first places. -/
theorem listsOnce_of_compile {source : String} {template : Template}
    (compiled : compile source = .ok template) :
    ∃ scanned, scan (normalize source.toList) = .ok scanned ∧
      ListsOnce (fun place name => OccursFree (scanned.pieces.map Piece.mark) place name ∧
        Host.isGlobal name = false ∧ name ∉ template.declared) template.required ∧
      ListsOnce (IsDeclaredAt (normalize source.toList)) template.declared := by
  rcases compile_eq_ok_iff.mp compiled with ⟨scanned, nodes, scan_eq, built, rfl⟩
  rcases nodesOf_eq_ok_iff.mp built with ⟨spelled, faithful⟩
  refine ⟨scanned, scan_eq, ?_, listsOnce_globals scan_eq⟩
  rw [← spelled]
  exact listsOnce_requiredNames faithful scanned.globals

/-- A name that a loop binds and that occurs free behind the loop, next to a declared one. -/
theorem listsOnce_of_compile_loop :
    ∃ template, compile (String.ofList (braced "@globals g".toList ++
        braced "#each x in a".toList ++ braced "x".toList ++ braced "g".toList ++
        braced "/each".toList ++ braced "x".toList)) = .ok template ∧
      template.required = ["a", "x"] ∧ template.declared = ["g"] ∧
      ∃ scanned, scan (normalize (String.ofList (braced "@globals g".toList ++
          braced "#each x in a".toList ++ braced "x".toList ++ braced "g".toList ++
          braced "/each".toList ++ braced "x".toList)).toList) = .ok scanned ∧
        ListsOnce (fun place name => OccursFree (scanned.pieces.map Piece.mark) place name ∧
          Host.isGlobal name = false ∧ name ∉ template.declared) template.required := by
  have loop : Tag.read 16 "#each x in a".toList = .ok (.eachOpen "x" ⟨27, ['a']⟩) := by
    change readEach 16 21 " x in a".toList = _
    cbv
  have cuts : Cuts (some 0) 0 (braced "@globals g".toList ++ braced "#each x in a".toList ++
      braced "x".toList ++ braced "g".toList ++ braced "/each".toList ++ braced "x".toList) _ :=
    .skip ⟨_, rfl, rfl⟩ rfl
      (.tag ⟨_, rfl, rfl⟩ (by simp) loop
        (.tag ⟨_, rfl, rfl⟩ (by simp) rfl
          (.tag ⟨_, rfl, rfl⟩ (by simp) rfl
            (.tag ⟨_, rfl, rfl⟩ (by simp) rfl
              (.tag ⟨_, rfl, rfl⟩ (by simp) rfl (.plain untagged_nil))))))
  have declared : declaredNames ⟨0, "g".toList⟩ = .ok ["g"] := by
    cbv
  have built : nodesOf [.tag 14 (.eachOpen "x" ⟨27, ['a']⟩), .tag 30 (.interpolation ⟨32, ['x']⟩),
      .tag 35 (.interpolation ⟨37, ['g']⟩), .tag 40 .eachClose,
      .tag 49 (.interpolation ⟨51, ['x']⟩)] =
      .ok [.each "x" ⟨"a", .var "a"⟩
        [.interpolation ⟨"x", .var "x"⟩ true, .interpolation ⟨"g", .var "g"⟩ true],
        .interpolation ⟨"x", .var "x"⟩ true] := by
    cbv
  have scan_eq : scan (normalize (String.ofList (braced "@globals g".toList ++
      braced "#each x in a".toList ++ braced "x".toList ++ braced "g".toList ++
      braced "/each".toList ++ braced "x".toList)).toList) =
      .ok ⟨[.tag 14 (.eachOpen "x" ⟨27, ['a']⟩), .tag 30 (.interpolation ⟨32, ['x']⟩),
        .tag 35 (.interpolation ⟨37, ['g']⟩), .tag 40 .eachClose,
        .tag 49 (.interpolation ⟨51, ['x']⟩)], ["g"]⟩ :=
    scan_eq_ok_iff.mpr (.inr ⟨⟨0, "g".toList⟩, rfl, declared, cuts⟩)
  have compiled := compile_eq_ok_iff.mpr ⟨_, _, scan_eq, built, rfl⟩
  rcases listsOnce_of_compile compiled with ⟨scanned, scanned_eq, required, _⟩
  exact ⟨_, compiled, by decide, rfl, scanned, scanned_eq, required⟩

end Stencil.Template
