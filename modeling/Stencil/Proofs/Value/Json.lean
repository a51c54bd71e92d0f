import Stencil.Eval.Namespace
import Stencil.Proofs.Json.RoundTrip
import Stencil.Proofs.Value.Data

/-!
# Values written as JSON and read again

Writing a value as JSON and reading it again loses what has no JSON form.  What is left is made of
data alone, and writing and reading it once more changes nothing.
-/

namespace Stencil

open Calendar (Instant)

namespace Value

/-! ## Images in JSON -/

/-- What is read again after a value was written as JSON, if it has a JSON form. -/
def jsonImage? (v : Value) : Option Value :=
  v.toJson?.map ofJson

theorem jsonImage?_array (items : List Value) : (array items).jsonImage? =
    some (array (items.map fun item => item.jsonImage?.getD null)) := by
  have each : ∀ item : Value, ofJson (item.toJson?.getD .null) = item.jsonImage?.getD null := by
    intro item
    rw [jsonImage?]
    cases item.toJson? <;> rfl
  simp only [jsonImage?, toJson?, Option.map_some, ofJson, toJsonItems_eq_map, ofJsonItems_eq_map,
    List.map_map]
  congr 2
  exact List.map_congr_left fun item _ => each item

theorem jsonImage?_object (fields : List (String × Value)) : (object fields).jsonImage? =
    some (object (fields.filterMap fun field => field.2.jsonImage?.map (field.1, ·))) := by
  simp only [jsonImage?, toJson?, Option.map_some, ofJson, toJsonFields_eq_filterMap,
    ofJsonFields_eq_map, List.map_filterMap, Option.map_map]
  rfl

theorem jsonImage?_number {n : Binary64} (finite : n.isFinite) :
    (number n).jsonImage? = some (number n.dropZeroSign) := by
  rw [jsonImage?, toJson?, jsonNumber_eq finite]
  rfl

theorem jsonImage?_number_of_not_isFinite {n : Binary64} (infinite : ¬ n.isFinite) :
    (number n).jsonImage? = some null := by
  rw [jsonImage?, toJson?, jsonNumber, if_pos (by simpa using infinite)]
  rfl

/-- Exactly `undefined` and functions have no JSON form. -/
theorem toJson?_eq_none_iff (v : Value) :
    v.toJson? = none ↔ v = undefined ∨ ∃ b, v = builtin b ∧ b.isCallable := by
  cases v with
  | builtin b =>
      rw [toJson?]
      cases callable : b.isCallable <;> simp [callable]
  | _ => simp [toJson?]

/-- Data keeps its form but for the signs of zeros. -/
theorem IsData.jsonImage?_eq {v : Value} (data : v.IsData) :
    v.jsonImage? = some v.dropZeroSigns := by
  induction data with
  | null => rfl
  | bool b => rfl
  | number finite => exact jsonImage?_number finite
  | string s => rfl
  | array each ih =>
      rw [jsonImage?_array, dropZeroSigns, dropZeroSignsOfItems_eq_map]
      congr 2
      exact List.map_congr_left fun item mem => by rw [ih item mem, Option.getD_some]
  | @object fields each ih =>
      rw [jsonImage?_object, dropZeroSigns, dropZeroSignsOfFields_eq_map, ← List.filterMap_eq_map]
      congr 2
      exact List.filterMap_congr fun field mem => by rw [ih field mem]; rfl

/-- Data in which no zero has a sign. -/
structure IsImage (v : Value) : Prop where
  data : v.IsData
  unsigned : v.dropZeroSigns = v

theorem IsImage.jsonImage?_eq {v : Value} (image : v.IsImage) : v.jsonImage? = some v := by
  rw [image.data.jsonImage?_eq, image.unsigned]

theorem IsImage.array {items : List Value} (each : ∀ item ∈ items, IsImage item) :
    IsImage (array items) where
  data := .array fun item mem => (each item mem).data
  unsigned := by
    rw [dropZeroSigns, dropZeroSignsOfItems_eq_map]
    congr 1
    exact List.map_congr_left (fun item mem => (each item mem).unsigned) |>.trans (List.map_id _)

theorem IsImage.object {fields : List (String × Value)} (each : ∀ field ∈ fields, IsImage field.2) :
    IsImage (object fields) where
  data := .object fun field mem => (each field mem).data
  unsigned := by
    rw [dropZeroSigns, dropZeroSignsOfFields_eq_map]
    congr 1
    refine (List.map_congr_left fun field mem => ?_).trans (List.map_id _)
    rw [(each field mem).unsigned]
    rfl

/-- What is read again in place of a scalar is a scalar or an object without fields. -/
theorem isImage_of_isScalar {v : Value} (scalar : v.isScalar) :
    ∀ image ∈ v.jsonImage?, image.IsImage ∧ (image.isScalar ∨ image = object []) := by
  intro image mem
  cases v with
  | undefined => cases mem
  | null => cases mem; exact ⟨⟨.null, rfl⟩, .inl rfl⟩
  | bool b => cases mem; exact ⟨⟨.bool b, rfl⟩, .inl rfl⟩
  | number n =>
      by_cases finite : n.isFinite
      · rw [jsonImage?_number finite] at mem
        cases mem
        refine ⟨⟨.number (Binary64.isFinite_dropZeroSign finite), ?_⟩, .inl rfl⟩
        rw [dropZeroSigns, Binary64.dropZeroSign_dropZeroSign]
      · rw [jsonImage?_number_of_not_isFinite finite] at mem
        cases mem
        exact ⟨⟨.null, rfl⟩, .inl rfl⟩
  | string s => cases mem; exact ⟨⟨.string s, rfl⟩, .inl rfl⟩
  | array items => cases scalar
  | object fields => cases scalar
  | date t => cases mem; exact ⟨⟨.string _, rfl⟩, .inl rfl⟩
  | url u => cases mem; exact ⟨⟨.string _, rfl⟩, .inl rfl⟩
  | builtin b =>
      rw [jsonImage?, toJson?] at mem
      split at mem
      · cases mem
      · cases mem
        exact ⟨⟨.object nofun, rfl⟩, .inr rfl⟩

/-- What is read again is data, and its zeros have no sign. -/
theorem isImage_of_jsonImage? (v : Value) : ∀ image ∈ v.jsonImage?, image.IsImage := by
  induction v using induction with
  | scalar v scalar => exact fun image mem => (isImage_of_isScalar scalar image mem).1
  | array items ih =>
      intro image mem
      rw [jsonImage?_array] at mem
      cases mem
      refine .array fun image mem => ?_
      rcases List.mem_map.mp mem with ⟨item, itemMem, rfl⟩
      cases image_eq : item.jsonImage? with
      | none => exact ⟨.null, rfl⟩
      | some image => exact ih item itemMem image image_eq
  | object fields ih =>
      intro image mem
      rw [jsonImage?_object] at mem
      cases mem
      refine .object fun kept mem => ?_
      rcases List.mem_filterMap.mp mem with ⟨field, fieldMem, kept_eq⟩
      rcases Option.map_eq_some_iff.mp kept_eq with ⟨image, image_eq, rfl⟩
      exact ih field fieldMem image image_eq

/-- What is read again repeats no key that was not repeated. -/
theorem HasDistinctKeys.of_jsonImage? {v : Value} (distinct : v.HasDistinctKeys) :
    ∀ image ∈ v.jsonImage?, image.HasDistinctKeys := by
  induction distinct with
  | scalar isScalar =>
      intro image mem
      rcases (isImage_of_isScalar isScalar image mem).2 with imageScalar | rfl
      · exact .scalar imageScalar
      · exact .object List.nodup_nil nofun
  | array each ih =>
      intro image mem
      rw [jsonImage?_array] at mem
      cases mem
      refine .array fun image mem => ?_
      rcases List.mem_map.mp mem with ⟨item, itemMem, rfl⟩
      cases image_eq : item.jsonImage? with
      | none => exact .scalar rfl
      | some image => exact ih item itemMem image image_eq
  | object keys each ih =>
      intro image mem
      rw [jsonImage?_object] at mem
      cases mem
      refine .object (keys.sublist (Fields.keys_filterMap_sublist _ _)) fun kept mem => ?_
      rcases List.mem_filterMap.mp mem with ⟨field, fieldMem, kept_eq⟩
      rcases Option.map_eq_some_iff.mp kept_eq with ⟨image, image_eq, rfl⟩
      exact ih field fieldMem image image_eq

/-- Exactly the fields whose value has a JSON form stay, in their order. -/
theorem keys_filterMap_jsonImage? (fields : List (String × Value)) :
    Fields.keys (fields.filterMap fun field => field.2.jsonImage?.map (field.1, ·)) =
      Fields.keys (fields.filter fun field => field.2.toJson?.isSome) := by
  induction fields with
  | nil => rfl
  | cons field fields ih =>
      rw [List.filterMap_cons, List.filter_cons, jsonImage?]
      cases field.2.toJson? with
      | none => simpa using ih
      | some json => simpa [Fields.keys] using ih

/-! ## Equality -/

theorem strictEqItems_map {convert : Value → Value} {items : List Value}
    (each : ∀ item ∈ items, (convert item).strictEq item) :
    strictEqItems (items.map convert) items := by
  induction items with
  | nil => rfl
  | cons item items ih =>
      rcases List.forall_mem_cons.mp each with ⟨here, others⟩
      rw [List.map_cons, strictEqItems, here, ih others]
      rfl

theorem strictEqFields_map {convert : Value → Value} {fields others : List (String × Value)}
    (found : ∀ field ∈ fields, Fields.find? field.1 others = some field.2)
    (each : ∀ field ∈ fields, (convert field.2).strictEq field.2) :
    strictEqFields (fields.map fun field => (field.1, convert field.2)) others := by
  induction fields with
  | nil => rfl
  | cons field fields ih =>
      rcases List.forall_mem_cons.mp found with ⟨foundHere, foundOthers⟩
      rcases List.forall_mem_cons.mp each with ⟨here, eachOther⟩
      rw [List.map_cons, strictEqFields, foundHere, ih foundOthers eachOther, Bool.and_true]
      exact here

/-- Data equals itself without the signs of zeros. -/
theorem IsData.dropZeroSigns_strictEq {v : Value} (data : v.IsData) (distinct : v.HasDistinctKeys) :
    v.dropZeroSigns.strictEq v := by
  induction data with
  | null => rfl
  | bool b => simp [dropZeroSigns, strictEq]
  | number finite => exact Binary64.dropZeroSign_beq finite
  | string s => simp [dropZeroSigns, strictEq]
  | array each ih =>
      rw [dropZeroSigns, dropZeroSignsOfItems_eq_map, strictEq]
      exact strictEqItems_map fun item mem => ih item mem (distinct.of_mem_array item mem)
  | object each ih =>
      rcases distinct.of_object with ⟨keys, distinct⟩
      rw [dropZeroSigns, dropZeroSignsOfFields_eq_map, strictEq, List.length_map,
        beq_self_eq_true, Bool.true_and]
      exact strictEqFields_map (fun field mem => Fields.find?_of_mem keys mem)
        fun field mem => ih field mem (distinct field mem)

/-! ## Texts -/

/-- The JSON form of data that does not nest too deeply is read again from its text, if all of its
numbers are. -/
theorem IsData.exists_readable {v : Value} (data : v.IsData) (distinct : v.HasDistinctKeys)
    (reads : ∀ n ∈ v.numbers, Json.ReadsBack n.dropZeroSign) {levels : ℕ}
    (nests : v.depth ≤ levels) : ∃ json, v.toJson? = some json ∧ Json.Readable levels json := by
  induction data generalizing levels with
  | null => exact ⟨.null, rfl, .null⟩
  | bool b => exact ⟨.bool b, rfl, .bool b⟩
  | number finite =>
      refine ⟨_, rfl, ?_⟩
      rw [jsonNumber_eq finite]
      exact .number (Binary64.isFinite_dropZeroSign finite) Binary64.eq_zero_of_isZero_dropZeroSign
        (reads _ List.mem_cons_self)
  | string s => exact ⟨.string s, rfl, .string s⟩
  | array each ih =>
      rcases Nat.exists_eq_add_of_le' nests with ⟨spare, rfl⟩
      refine ⟨_, rfl, .array fun json mem => ?_⟩
      rw [toJsonItems_eq_map] at mem
      rcases List.mem_map.mp mem with ⟨item, itemMem, rfl⟩
      have itemNests := (depth_le_depthOfItems itemMem).trans (Nat.le_add_left _ spare)
      have itemReads := fun n mem => reads n (numbers_subset_of_mem_items itemMem mem)
      rcases ih item itemMem (distinct.of_mem_array item itemMem) itemReads itemNests with
        ⟨json, form, readable⟩
      rw [form]
      exact readable
  | object each ih =>
      rcases distinct.of_object with ⟨keys, distinct⟩
      rcases Nat.exists_eq_add_of_le' nests with ⟨spare, rfl⟩
      refine ⟨_, rfl, .object ?_ fun kept mem => ?_⟩
      · rw [toJsonFields_eq_filterMap]
        exact keys.sublist (Fields.keys_filterMap_sublist _ _)
      · rw [toJsonFields_eq_filterMap] at mem
        rcases List.mem_filterMap.mp mem with ⟨field, fieldMem, kept_eq⟩
        rcases Option.map_eq_some_iff.mp kept_eq with ⟨json, form, rfl⟩
        have fieldNests := (depth_le_depthOfFields fieldMem).trans (Nat.le_add_left _ spare)
        have fieldReads := fun n mem => reads n (numbers_subset_of_mem_fields fieldMem mem)
        rcases ih field fieldMem (distinct field fieldMem) fieldReads fieldNests with
          ⟨json', form', readable⟩
        rw [form] at form'
        cases form'
        exact readable

theorem blank_jsonIndent (k : Binary64) : Json.Blank (jsonIndent (.number k)).toList := by
  rw [jsonIndent]
  split
  · rw [String.toList_ofList]
    exact fun c mem => .inl (List.eq_of_mem_replicate mem)
  · exact Json.blank_nil

theorem jsonStringify_of_toJson? {v : Value} {json : Json} (form : v.toJson? = some json)
    (replacer indent : Value) :
    jsonStringify [v, replacer, indent] = string (json.pretty (jsonIndent indent)) := by
  have first : Arguments.value [v, replacer, indent] 0 = v := rfl
  rw [jsonStringify, first, form]
  rfl

theorem jsonParse_of_read {source : String} {json : Json} (taken : Json.read source = .ok json) :
    jsonParse [string source] = .ok (ofJson json) := by
  have first : Arguments.text [string source] 0 = source := rfl
  rw [jsonParse, first, taken]

/-- Data is read again from its text without the signs of zeros. -/
theorem exists_parse_stringify {v : Value} (data : v.IsData) (distinct : v.HasDistinctKeys)
    (nests : v.depth ≤ Json.nestingLimit)
    (reads : ∀ n ∈ v.numbers, Json.ReadsBack n.dropZeroSign) (now : Instant)
    (replacer : Value) (k : Binary64) :
    ∃ source,
      Builtin.callMember now [v, replacer, number k] .json "stringify" = .ok (string source) ∧
      Builtin.callMember now [string source] .json "parse" = .ok v.dropZeroSigns := by
  rcases data.exists_readable distinct reads nests with ⟨json, form, readable⟩
  have image : ofJson json = v.dropZeroSigns := by
    have := data.jsonImage?_eq
    rw [jsonImage?, form] at this
    exact Option.some.inj this
  refine ⟨json.pretty (jsonIndent (number k)), ?_, ?_⟩
  · exact congrArg Except.ok (jsonStringify_of_toJson? form replacer (number k))
  · rw [← image]
    exact jsonParse_of_read (Json.read_pretty readable (blank_jsonIndent k))

/-- Writing values as JSON and reading them again is a retraction onto data.

- Exactly `undefined` and functions have no JSON form.
- What is read again is data, it repeats no key that was not repeated, and writing and reading it
  once more gives the same.
- Elements of an array keep their places, and `null` stands for those without a JSON form.
- Fields of an object keep their order, and exactly those without a JSON form are lost.
- Data keeps everything but the signs of zeros, and what is read again strictly equals it.  The same
  holds for `JSON.stringify` with any numeric indent followed by `JSON.parse`, while arrays and
  objects nest no deeper than the limit and every number is read from its own text. -/
theorem json_retraction (v : Value) :
    (v.toJson? = none ↔ v = undefined ∨ ∃ b, v = builtin b ∧ b.isCallable) ∧
      (∀ image, v.jsonImage? = some image → image.IsData ∧
        (v.HasDistinctKeys → image.HasDistinctKeys) ∧ image.jsonImage? = some image) ∧
      (∀ items, v = array items → ∃ images, v.jsonImage? = some (array images) ∧
        images.length = items.length ∧
        images = items.map fun item => item.jsonImage?.getD null) ∧
      (∀ fields, v = object fields → ∃ images, v.jsonImage? = some (object images) ∧
        Fields.keys images = Fields.keys (fields.filter fun field => field.2.toJson?.isSome) ∧
        images = fields.filterMap fun field => field.2.jsonImage?.map (field.1, ·)) ∧
      (v.IsData → v.jsonImage? = some v.dropZeroSigns ∧
        (v.HasDistinctKeys → v.dropZeroSigns.strictEq v ∧
          (v.depth ≤ Json.nestingLimit →
            (∀ n ∈ v.numbers, Json.ReadsBack n.dropZeroSign) → ∀ now k, ∃ source,
              Builtin.callMember now [v, null, number k] .json "stringify" = .ok (string source) ∧
              Builtin.callMember now [string source] .json "parse" = .ok v.dropZeroSigns))) := by
  refine ⟨toJson?_eq_none_iff v, ?_, ?_, ?_, ?_⟩
  · intro image image_eq
    have isImage := isImage_of_jsonImage? v image image_eq
    exact ⟨isImage.data, fun distinct => distinct.of_jsonImage? image image_eq,
      isImage.jsonImage?_eq⟩
  · rintro items rfl
    exact ⟨_, jsonImage?_array items, List.length_map _, rfl⟩
  · rintro fields rfl
    exact ⟨_, jsonImage?_object fields, keys_filterMap_jsonImage? fields, rfl⟩
  · intro data
    refine ⟨data.jsonImage?_eq, fun distinct => ⟨data.dropZeroSigns_strictEq distinct, ?_⟩⟩
    exact fun nests reads now k => exists_parse_stringify data distinct nests reads now null k

/-- A record with a negative zero, a fraction and a list comes back from its indented text with a
zero that has no sign. -/
theorem json_retraction_record : ∃ v : Value,
    v = object [("zero", number (.signedZero true)), ("half", number (.round false 1 2)),
        ("items", array [null, string "a\n"])] ∧
      v.IsData ∧ v.HasDistinctKeys ∧ v.depth ≤ Json.nestingLimit ∧
      (∀ n ∈ v.numbers, Json.ReadsBack n.dropZeroSign) ∧
      ∃ source,
        Builtin.callMember ⟨0, 0⟩ [v, null, number (Binary64.ofNat 2)] .json "stringify" =
          .ok (string source) ∧
        Builtin.callMember ⟨0, 0⟩ [string source] .json "parse" =
          .ok (object [("zero", number .zero), ("half", number (.round false 1 2)),
            ("items", array [null, string "a\n"])]) := by
  obtain ⟨v, v_eq⟩ : ∃ v : Value, v = object [("zero", number (.signedZero true)),
      ("half", number (.round false 1 2)), ("items", array [null, string "a\n"])] := ⟨_, rfl⟩
  have data : v.IsData := by
    subst v_eq
    refine .object ?_
    simp only [List.forall_mem_cons]
    refine ⟨.number rfl, .number rfl, .array ?_, nofun⟩
    simp only [List.forall_mem_cons]
    exact ⟨.null, .string "a\n", nofun⟩
  have distinct : v.HasDistinctKeys := by
    subst v_eq
    refine .object (by decide) ?_
    simp only [List.forall_mem_cons]
    refine ⟨.scalar rfl, .scalar rfl, .array ?_, nofun⟩
    simp only [List.forall_mem_cons]
    exact ⟨.scalar rfl, .scalar rfl, nofun⟩
  have nests : v.depth ≤ Json.nestingLimit := by
    subst v_eq
    decide
  have reads : ∀ n ∈ v.numbers, Json.ReadsBack n.dropZeroSign := by
    subst v_eq
    simp only [numbers, numbersOfFields, numbersOfItems, List.append_nil, List.cons_append,
      List.nil_append, List.forall_mem_cons]
    have written : Json.WritesNumber ⟨[0], [5], none⟩ (.round false 1 2) :=
      ⟨⟨⟨⟨by decide, .inl rfl⟩, nofun⟩, by decide +kernel⟩, by decide +kernel⟩
    have half := Json.readsBack_of_short written (by decide +kernel) (by decide) (by decide)
    have signless : (Binary64.round false 1 2).dropZeroSign = .round false 1 2 := by
      decide +kernel
    have zero := Json.readsBack_of_isInteger (n := .zero) (by decide +kernel) (fun _ => rfl)
      (by decide +kernel)
    exact ⟨zero, signless.symm ▸ half, nofun⟩
  have image : v.dropZeroSigns = object [("zero", number .zero),
      ("half", number (.round false 1 2)), ("items", array [null, string "a\n"])] := by
    subst v_eq
    rfl
  rcases json_retraction v with ⟨-, -, -, -, ofData⟩
  have parsed := ((ofData data).2 distinct).2 nests reads ⟨0, 0⟩ (Binary64.ofNat 2)
  rw [image] at parsed
  exact ⟨v, v_eq, data, distinct, nests, reads, parsed⟩

end Value

end Stencil
