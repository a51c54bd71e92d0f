import Mathlib.Data.Finset.Card
import Stencil.Context
import Stencil.Proofs.Fields
import Stencil.Proofs.FirstPlaces

/-!
# Changes of contexts

A context that is set, merged and loaded step by step holds what is left of the pairs that were
written to it since it was last made anew: every name once, in the order of the first pairs, with
the value of its last one.  Contexts with the same names in the same order that answer alike are the
same, and the laws of merging follow from what it does to names and to answers.
-/

namespace Stencil

namespace Fields

variable {α : Type u}

/-! ## Fields and their answers -/

/-- Fields with the same keys in the same order and the same answers are the same. -/
theorem eq_of_answers {fields others : List (String × α)} (distinct : (keys fields).Nodup)
    (keys_eq : keys fields = keys others)
    (answers : ∀ key, find? key fields = find? key others) : fields = others := by
  induction fields generalizing others with
  | nil =>
      cases others with
      | nil => rfl
      | cons other more => cases keys_eq
  | cons field rest ih =>
      cases others with
      | nil => cases keys_eq
      | cons other more =>
          rcases field with ⟨key, value⟩
          rcases other with ⟨keyAlso, valueAlso⟩
          rcases List.cons.inj keys_eq with ⟨same, rest_eq⟩
          dsimp only at same
          subst same
          rcases List.nodup_cons.mp distinct with ⟨absent, distinctRest⟩
          have value_eq : value = valueAlso := by
            simpa [find?_cons] using answers key
          have answersRest : ∀ name, find? name rest = find? name more := by
            intro name
            by_cases equal : name = key
            · have absentAlso : key ∉ keys more := by
                rw [← show keys rest = keys more from rest_eq]
                exact absent
              rw [equal, find?_eq_none_of_not_mem absent, find?_eq_none_of_not_mem absentAlso]
            · simpa [find?_cons, equal] using answers name
          rw [value_eq, ih distinctRest rest_eq answersRest]

/-- The last of several pairs of a key gives the answer. -/
theorem find?_reverse_eq_some_iff {key : String} {value : α} {pairs : List (String × α)} :
    find? key pairs.reverse = some value ↔
      ∃ before after, pairs = before ++ (key, value) :: after ∧ key ∉ keys after := by
  rw [find?, List.lookup_eq_some_iff]
  constructor
  · rintro ⟨front, back, split, other⟩
    refine ⟨back.reverse, front.reverse, ?_, ?_⟩
    · rw [← List.reverse_reverse pairs, split]
      simp
    · intro mem
      rcases List.mem_map.mp mem with ⟨pair, pairMem, rfl⟩
      have distinct := other pair (List.mem_reverse.mp pairMem)
      simp at distinct
  · rintro ⟨before, after, rfl, absent⟩
    refine ⟨after.reverse, before.reverse, by simp, ?_⟩
    intro pair mem
    rw [bne_iff_ne]
    rintro rfl
    exact absent (List.mem_map_of_mem (List.mem_reverse.mp mem))

/-! ## Keys of written fields -/

/-- The keys of written pairs that are new come behind the old ones, in the order of their first
pairs. -/
theorem keys_insertAll (fields pairs : List (String × α)) :
    keys (insertAll fields pairs) =
      keys fields ++ (keys pairs).eraseDups.filter fun key => !(keys fields).contains key := by
  induction pairs generalizing fields with
  | nil => simp [insertAll, keys]
  | cons pair rest ih =>
      rcases pair with ⟨key, value⟩
      have step : insertAll fields ((key, value) :: rest) =
          insertAll (insert key value fields) rest := rfl
      have pairs_eq : (keys ((key, value) :: rest)).eraseDups =
          key :: (keys rest).eraseDups.filter fun other => !other == key := by
        rw [← eraseDups_filter, ← List.eraseDups_cons]
        rfl
      rw [step, ih, pairs_eq, keys_insert]
      by_cases mem : key ∈ keys fields
      · rw [if_pos mem, List.filter_cons_of_neg (by simpa using mem), List.filter_filter]
        congr 1
        apply List.filter_congr
        intro other _
        by_cases equal : other = key <;> simp [equal, mem]
      · rw [if_neg mem, List.filter_cons_of_pos (by simpa using mem), List.filter_filter,
          List.append_assoc, List.singleton_append]
        congr 2
        apply List.filter_congr
        intro other _
        by_cases equal : other = key <;> simp [equal]

theorem keys_ofPairs (pairs : List (String × α)) :
    keys (ofPairs pairs) = (keys pairs).eraseDups := by
  simp [ofPairs, keys_insertAll, show keys ([] : List (String × α)) = [] from rfl]

theorem insertAll_ofPairs (pairs others : List (String × α)) :
    insertAll (ofPairs pairs) others = ofPairs (pairs ++ others) := by
  simp only [ofPairs, insertAll, List.foldl_append]

theorem eraseDups_keys_of_nodup {fields : List (String × α)} (distinct : (keys fields).Nodup) :
    (keys fields).eraseDups = keys fields := by
  rw [← keys_ofPairs, ofPairs_of_nodup distinct]

end Fields

namespace Context

/-! ## Changes -/

/-- A change of a context. -/
inductive Change where
  | set (name : String) (value : Value)
  | merge (other : Context)
  | load (json : Json)

/-- The context after a change.  One that is loaded from an object takes the place of the context;
what makes no context is not loaded. -/
def apply (context : Context) : Change → Context
  | .set name value => context.set name value
  | .merge other => context.merge other
  | .load json =>
      match ofJson? json with
      | some loaded => loaded
      | none => context

/-- The context after changes one after the other. -/
def applyAll (context : Context) (changes : List Change) : Context :=
  changes.foldl apply context

/-- The pairs that have been written to a context after a change.  A context that is loaded is made
anew, and a value that is not loaded writes nothing. -/
def written (pairs : List (String × Value)) : Change → List (String × Value)
  | .set name value => pairs ++ [(name, value)]
  | .merge other => pairs ++ other.bindings
  | .load (.object fields) => Value.ofJsonFields fields
  | .load _ => pairs

/-- What is left of pairs that are written one after the other. -/
structure Records (pairs : List (String × Value)) (context : Context) : Prop where
  /-- The names stand in the order of their first pairs, each of them once. -/
  names : ListsOnce (fun (place : Nat) name => ∃ value, pairs[place]? = some (name, value))
    (Fields.keys context.bindings)
  /-- A name has the value of its last pair. -/
  value_iff : ∀ name value, context.get? name = some value ↔
    ∃ before after, pairs = before ++ (name, value) :: after ∧ name ∉ Fields.keys after
  size_eq : context.size = (Fields.keys pairs).toFinset.card

theorem records_ofPairs (pairs : List (String × Value)) : Records pairs (ofPairs pairs) := by
  have names_eq : Fields.keys (ofPairs pairs).bindings = (Fields.keys pairs).eraseDups :=
    Fields.keys_ofPairs pairs
  constructor
  · have lists := listsOnce_reduceOption ((Fields.keys pairs).map some)
    have occurs_eq :
        (fun (place : Nat) name => ((Fields.keys pairs).map some)[place]? = some (some name)) =
          fun (place : Nat) name => ∃ value, pairs[place]? = some (name, value) := by
      funext place name
      simp [Fields.keys]
    rw [occurs_eq] at lists
    rw [names_eq]
    simpa [List.reduceOption] using lists
  · intro name value
    rw [get?, ofPairs, Fields.find?_ofPairs, Fields.find?_reverse_eq_some_iff]
  · have same : (Fields.keys pairs).toFinset =
        (Fields.keys (ofPairs pairs).bindings).toFinset := by
      ext name
      simp [names_eq, List.mem_eraseDups]
    rw [same, List.toFinset_card_of_nodup (ofPairs pairs).distinct, Fields.keys, List.length_map,
      size]

theorem ofPairs_bindings (context : Context) : ofPairs context.bindings = context :=
  Context.ext (Fields.ofPairs_of_nodup context.distinct)

/-- A change of a context that holds what is left of some pairs writes further pairs. -/
theorem apply_ofPairs (pairs : List (String × Value)) (change : Change) :
    (ofPairs pairs).apply change = ofPairs (written pairs change) := by
  cases change with
  | set name value => exact Context.ext (Fields.insertAll_ofPairs pairs [(name, value)])
  | merge other => exact Context.ext (Fields.insertAll_ofPairs pairs other.bindings)
  | load json => cases json <;> rfl

theorem applyAll_ofPairs (pairs : List (String × Value)) (changes : List Change) :
    (ofPairs pairs).applyAll changes = ofPairs (changes.foldl written pairs) := by
  induction changes generalizing pairs with
  | nil => rfl
  | cons change rest ih =>
      have step : (ofPairs pairs).applyAll (change :: rest) =
          ((ofPairs pairs).apply change).applyAll rest := rfl
      rw [step, apply_ofPairs, ih, List.foldl_cons]

/-- Exactly objects are loaded. -/
theorem ofJson?_eq_none_iff (json : Json) :
    ofJson? json = none ↔ ∀ fields, json ≠ .object fields := by
  cases json <;> simp [ofJson?]

/-- What makes no context might as well not have been loaded. -/
theorem applyAll_load_of_none {json : Json} (notLoaded : ofJson? json = none) (context : Context)
    (before after : List Change) :
    context.applyAll (before ++ .load json :: after) = context.applyAll (before ++ after) := by
  simp only [applyAll, List.foldl_append, List.foldl_cons, apply, notLoaded]

/-! ## Merging -/

variable (a b c : Context)

theorem keys_merge : Fields.keys (a.merge b).bindings = Fields.keys a.bindings ++
    (Fields.keys b.bindings).filter fun name => !(Fields.keys a.bindings).contains name := by
  have merged := Fields.keys_insertAll a.bindings b.bindings
  rw [Fields.eraseDups_keys_of_nodup b.distinct] at merged
  exact merged

theorem get?_merge (name : String) : (a.merge b).get? name = (b.get? name).or (a.get? name) := by
  rw [merge, get?, Fields.find?_insertAll, Fields.find?_reverse b.distinct]
  rfl

variable {a b} in
/-- Contexts with the same names in the same order and the same answers are the same. -/
theorem eq_of_answers (keys_eq : Fields.keys a.bindings = Fields.keys b.bindings)
    (answers : ∀ name, a.get? name = b.get? name) : a = b :=
  Context.ext (Fields.eq_of_answers a.distinct keys_eq answers)

theorem merge_assoc : (a.merge b).merge c = a.merge (b.merge c) := by
  apply eq_of_answers
  · rw [keys_merge, keys_merge, keys_merge, keys_merge, List.filter_append, List.filter_filter,
      List.append_assoc]
    congr 2
    apply List.filter_congr
    intro name _
    by_cases inA : name ∈ Fields.keys a.bindings <;> simp [inA]
  · intro name
    rw [get?_merge, get?_merge, get?_merge, get?_merge, Option.or_assoc]

variable {a b} in
/-- A context whose names all have their values already changes nothing. -/
theorem merge_eq_self (subset : Fields.keys b.bindings ⊆ Fields.keys a.bindings)
    (same : ∀ name value, b.get? name = some value → a.get? name = some value) :
    a.merge b = a := by
  apply eq_of_answers
  · have nothingNew : ((Fields.keys b.bindings).filter fun name =>
        !(Fields.keys a.bindings).contains name) = [] := by
      apply List.filter_eq_nil_iff.mpr
      intro name mem
      simpa using subset mem
    rw [keys_merge, nothingNew, List.append_nil]
  · intro name
    rw [get?_merge]
    cases found : b.get? name with
    | none => rw [Option.none_or]
    | some value => rw [Option.some_or, same name value found]

theorem merge_self : a.merge a = a :=
  merge_eq_self (List.Subset.refl _) fun _ _ found => found

/-- What was merged once is there already. -/
theorem merge_merge_self : (a.merge b).merge b = a.merge b := by
  apply merge_eq_self
  · intro name mem
    rw [keys_merge]
    by_cases inA : name ∈ Fields.keys a.bindings
    · exact List.mem_append_left _ inA
    · exact List.mem_append_right _ (List.mem_filter.mpr ⟨mem, by simpa using inA⟩)
  · intro name value found
    rw [get?_merge, found, Option.some_or]

/-! ## Main result -/

/-- Any changes leave of a context what is left of the pairs that were written since it was last
loaded.  A merged context has the names of the first one in front of the new names of the second
one, and answers with the second one where that answers.  Merging is associative, and what is there
already changes nothing, whether it is the whole context or was merged before.  Exactly objects are
loaded, and anything else might as well not have been, whatever comes before and after it. -/
theorem records_and_merges :
    (∀ changes, Records (changes.foldl written a.bindings) (a.applyAll changes)) ∧
      Fields.keys (a.merge b).bindings = Fields.keys a.bindings ++
        (Fields.keys b.bindings).filter (fun name => !(Fields.keys a.bindings).contains name) ∧
      (∀ name, (a.merge b).get? name = (b.get? name).or (a.get? name)) ∧
      (a.merge b).merge c = a.merge (b.merge c) ∧
      a.merge a = a ∧
      (a.merge b).merge b = a.merge b ∧
      (∀ json, ofJson? json = none ↔ ∀ fields, json ≠ .object fields) ∧
      ∀ json, (∀ fields, json ≠ .object fields) → ∀ before after,
        a.applyAll (before ++ .load json :: after) = a.applyAll (before ++ after) := by
  refine ⟨fun changes => ?_, a.keys_merge b, a.get?_merge b, a.merge_assoc b c, a.merge_self,
    a.merge_merge_self b, ofJson?_eq_none_iff, fun json noObject => ?_⟩
  · have applied := applyAll_ofPairs a.bindings changes
    rw [a.ofPairs_bindings] at applied
    rw [applied]
    exact records_ofPairs _
  · exact applyAll_load_of_none ((ofJson?_eq_none_iff json).mpr noObject) a

/-- A context that is loaded from an object with a repeated name, merged with another one and set.
Three contexts that share names in a circle. -/
theorem records_and_merges_circle :
    let a : Context := .ofPairs [("x", .bool true), ("y", .null)]
    let b : Context := .ofPairs [("y", .bool true), ("z", .null)]
    let c : Context := .ofPairs [("z", .bool true), ("x", .null)]
    let changes : List Change := [.set "w" .null, .load (.object [("z", .null), ("v", .null),
      ("z", .bool false)]), .load .null, .merge a, .set "v" .undefined]
    Records [("z", .null), ("v", .null), ("z", .bool false), ("x", .bool true), ("y", .null),
        ("v", .undefined)] (a.applyAll changes) ∧
      a.applyAll changes =
        .ofPairs [("z", .bool false), ("v", .undefined), ("x", .bool true), ("y", .null)] ∧
      a.merge (b.merge c) = .ofPairs [("x", .null), ("y", .bool true), ("z", .bool true)] ∧
      (a.merge b).merge c = a.merge (b.merge c) := by
  intro a b c changes
  rcases records_and_merges a b c with ⟨records, -, -, assoc, -⟩
  exact ⟨records changes, rfl, rfl, assoc⟩

end Context

end Stencil
