import Stencil.Text.Html

/-!
# Escaped markup

A text is inert when nothing in it can start or end a tag, an attribute or an entity that was not
written on purpose.  Escaping makes every text inert, and inert texts stay inert side by side.

Escaping loses nothing.  No entity begins another one, so a text in which every escaped character is
an entity is read in one way only, from the left: an entity is its character, and everything else
stands for itself.
-/

namespace Stencil.Text

/-- The characters that can start or end markup. -/
def markupChars : List Char :=
  ['<', '>', '\x22', '\x27', '\x60', '=']

/-- What may follow an ampersand, with the ampersand itself. -/
def entities : List (List Char) :=
  ["&amp;".toList, "&lt;".toList, "&gt;".toList, "&quot;".toList, "&#x27;".toList,
    "&#x60;".toList, "&#x3D;".toList]

/-- A text without markup, in which every ampersand starts an entity. -/
structure Inert (s : List Char) : Prop where
  not_markup : ∀ c ∈ s, c ∉ markupChars
  starts_entity : ∀ before after, s = before ++ '&' :: after →
    ∃ entity ∈ entities, entity <+: '&' :: after

namespace Inert

theorem nil : Inert [] where
  not_markup c mem := by cases mem
  starts_entity before after split := by simp at split

/-- A character that nothing is made of stands for itself. -/
theorem singleton {c : Char} (plain : c ∉ markupChars) (notAmpersand : c ≠ '&') : Inert [c] where
  not_markup other mem := by
    rw [List.mem_singleton.mp mem]
    exact plain
  starts_entity before after split := by
    have mem : '&' ∈ [c] := split ▸ List.mem_append_right before List.mem_cons_self
    exact absurd (List.mem_singleton.mp mem).symm notAmpersand

/-- An entity has its only ampersand in front. -/
theorem entity {s : List Char} (mem : s ∈ entities) : Inert s where
  not_markup := by
    have plain : ∀ entity ∈ entities, ∀ c ∈ entity, c ∉ markupChars := by
      simp [entities, markupChars]
    exact plain s mem
  starts_entity before after split := by
    have single : ∀ entity ∈ entities, '&' ∉ entity.tail := by
      decide
    cases before with
    | nil => exact ⟨s, mem, split ▸ List.prefix_rfl⟩
    | cons c before =>
        apply absurd _ (single s mem)
        rw [split]
        exact List.mem_append_right before List.mem_cons_self

theorem append {s t : List Char} (first : Inert s) (second : Inert t) : Inert (s ++ t) where
  not_markup c mem := by
    rcases List.mem_append.mp mem with mem | mem
    · exact first.not_markup c mem
    · exact second.not_markup c mem
  starts_entity before after split := by
    rcases List.append_eq_append_iff.mp split with ⟨skipped, rfl, tail_eq⟩ | ⟨found, s_eq, tail_eq⟩
    · exact second.starts_entity skipped after tail_eq
    · cases found with
      | nil => exact second.starts_entity [] after tail_eq.symm
      | cons c rest =>
          rcases List.cons.inj tail_eq with ⟨rfl, rfl⟩
          rcases first.starts_entity before rest s_eq with ⟨entity, mem, isPrefix⟩
          exact ⟨entity, mem, isPrefix.trans (List.prefix_append ('&' :: rest) t)⟩

end Inert

/-- A character is written as an entity or as itself. -/
theorem escapeChar_eq (c : Char) :
    escapeChar c ∈ entities ∨ escapeChar c = [c] ∧ c ∉ markupChars ∧ c ≠ '&' := by
  unfold escapeChar
  split
  case h_8 notAmpersand notLess notGreater notQuote notApostrophe notBacktick notEquals =>
    exact .inr ⟨rfl, by simp_all [markupChars], notAmpersand⟩
  all_goals exact .inl (by decide)

theorem inert_escapeChar (c : Char) : Inert (escapeChar c) := by
  rcases escapeChar_eq c with isEntity | ⟨same, plain, notAmpersand⟩
  · exact .entity isEntity
  · rw [same]
    exact .singleton plain notAmpersand

/-- Escaping makes every text inert. -/
theorem inert_escapeMarkup (s : List Char) : Inert (escapeMarkup s) := by
  induction s with
  | nil => exact .nil
  | cons c rest ih =>
      rw [escapeMarkup_cons]
      exact (inert_escapeChar c).append ih

/-! ## Entities -/

/-- The entities, each with the character that it stands for. -/
def entityChars : List (List Char × Char) :=
  [("&amp;".toList, '&'), ("&lt;".toList, '<'), ("&gt;".toList, '>'), ("&quot;".toList, '\x22'),
    ("&#x27;".toList, '\x27'), ("&#x60;".toList, '\x60'), ("&#x3D;".toList, '=')]

/-- The character of the entity at the front of a text, and what follows the entity. -/
def readEntity? (s : List Char) : Option (Char × List Char) :=
  entityChars.findSome? fun (entity, c) =>
    if entity.isPrefixOf s then some (c, s.drop entity.length) else none

variable {s rest entity : List Char} {c : Char}

theorem eq_of_prefix_entity : ∀ first ∈ entityChars, ∀ second ∈ entityChars,
    first.1 <+: second.1 → first = second := by
  decide

theorem exists_entity_eq_cons (mem : (entity, c) ∈ entityChars) : ∃ name, entity = '&' :: name := by
  have all : ∀ pair ∈ entityChars, ∃ name, pair.1 = '&' :: name := by
    simp [entityChars]
  exact all _ mem

theorem readEntity?_eq_some_iff :
    readEntity? s = some (c, rest) ↔ ∃ entity, (entity, c) ∈ entityChars ∧ s = entity ++ rest := by
  have sound (found : readEntity? s = some (c, rest)) :
      ∃ entity, (entity, c) ∈ entityChars ∧ s = entity ++ rest := by
    rcases List.exists_of_findSome?_eq_some found with ⟨⟨entity, d⟩, mem, hit⟩
    rw [Option.ite_none_right_eq_some, List.isPrefixOf_iff_prefix] at hit
    rcases hit with ⟨⟨behind, rfl⟩, equal⟩
    cases equal
    exact ⟨entity, mem, by rw [List.drop_left]⟩
  refine ⟨sound, ?_⟩
  rintro ⟨entity, mem, rfl⟩
  -- Whatever entity is found first begins the text too, so it is this one.
  have isSome : (readEntity? (entity ++ rest)).isSome := by
    rw [readEntity?, List.findSome?_isSome_iff]
    exact ⟨(entity, c), mem, by simp⟩
  rcases Option.isSome_iff_exists.mp isSome with ⟨⟨d, behind⟩, found⟩
  rcases List.exists_of_findSome?_eq_some found with ⟨⟨other, e⟩, otherMem, hit⟩
  rw [Option.ite_none_right_eq_some, List.isPrefixOf_iff_prefix] at hit
  have same : (other, e) = (entity, c) := by
    rcases List.prefix_or_prefix_of_prefix hit.1 (List.prefix_append entity rest) with
      shorter | longer
    · exact eq_of_prefix_entity _ otherMem _ mem shorter
    · exact (eq_of_prefix_entity _ mem _ otherMem longer).symm
  cases same
  rw [found, ← hit.2, List.drop_left]

theorem readEntity?_cons_eq_none (notAmpersand : c ≠ '&') : readEntity? (c :: rest) = none := by
  rw [Option.eq_none_iff_forall_ne_some]
  rintro ⟨d, behind⟩ found
  rcases readEntity?_eq_some_iff.mp found with ⟨entity, mem, split⟩
  rcases exists_entity_eq_cons mem with ⟨name, rfl⟩
  exact notAmpersand (List.cons.inj split).1

theorem length_lt_of_readEntity? (found : readEntity? s = some (c, rest)) :
    rest.length < s.length := by
  rcases readEntity?_eq_some_iff.mp found with ⟨entity, mem, rfl⟩
  rcases exists_entity_eq_cons mem with ⟨name, rfl⟩
  rw [List.cons_append, List.length_cons, List.length_append]
  omega

/-! ## Decoding -/

/-- A text with its entities replaced by their characters, from left to right. -/
def unescapeMarkup (s : List Char) : List Char :=
  match s with
  | [] => []
  | c :: rest =>
      match _found : readEntity? (c :: rest) with
      | some (d, behind) => d :: unescapeMarkup behind
      | none => c :: unescapeMarkup rest
termination_by s.length
decreasing_by
  · exact length_lt_of_readEntity? _found
  · exact Nat.lt_succ_self _

/-- A string with its entities replaced by their characters, from left to right. -/
def unescapeHtml (s : String) : String :=
  String.ofList (unescapeMarkup s.toList)

theorem unescapeMarkup_of_readEntity? (found : readEntity? s = some (c, rest)) :
    unescapeMarkup s = c :: unescapeMarkup rest := by
  rw [unescapeMarkup.eq_def]
  split
  · cases found
  · split
    · rename_i equal
      rw [found] at equal
      cases equal
      rfl
    · rename_i none
      rw [found] at none
      cases none

theorem unescapeMarkup_cons (plain : readEntity? (c :: rest) = none) :
    unescapeMarkup (c :: rest) = c :: unescapeMarkup rest := by
  rw [unescapeMarkup]
  split
  · rename_i found
    rw [plain] at found
    cases found
  · rfl

/-! ## Escaped texts -/

/-- A character is escaped as its entity, or it is none of seven and stands for itself. -/
theorem escapeChar_cases (c : Char) :
    (escapeChar c, c) ∈ entityChars ∨ escapeChar c = [c] ∧ c ∉ '&' :: markupChars := by
  unfold escapeChar
  split
  case h_8 => exact .inr ⟨rfl, by simp_all [markupChars]⟩
  all_goals exact .inl (by decide)

theorem unescapeMarkup_escapeChar_append (c : Char) (rest : List Char) :
    unescapeMarkup (escapeChar c ++ rest) = c :: unescapeMarkup rest := by
  rcases escapeChar_cases c with isEntity | ⟨same, plain⟩
  · exact unescapeMarkup_of_readEntity? (readEntity?_eq_some_iff.mpr ⟨_, isEntity, rfl⟩)
  · have notAmpersand : c ≠ '&' := fun equal => plain (equal ▸ List.mem_cons_self)
    rw [same]
    exact unescapeMarkup_cons (readEntity?_cons_eq_none notAmpersand)

theorem unescapeMarkup_escapeMarkup (s : List Char) : unescapeMarkup (escapeMarkup s) = s := by
  induction s with
  | nil => rw [escapeMarkup_nil, unescapeMarkup]
  | cons c rest ih => rw [escapeMarkup_cons, unescapeMarkup_escapeChar_append, ih]

theorem length_le_length_escapeMarkup (s : List Char) : s.length ≤ (escapeMarkup s).length := by
  induction s with
  | nil => exact Nat.le_refl 0
  | cons c rest ih =>
      have some : 1 ≤ (escapeChar c).length := by
        rcases escapeChar_cases c with isEntity | ⟨same, -⟩
        · rcases exists_entity_eq_cons isEntity with ⟨name, begins⟩
          simp [begins]
        · simp [same]
      rw [escapeMarkup_cons, List.length_append, List.length_cons]
      omega

/-- Escaping keeps a text exactly if there is nothing in it to escape. -/
theorem escapeMarkup_eq_self_iff : escapeMarkup s = s ↔ ∀ c ∈ '&' :: markupChars, c ∉ s := by
  induction s with
  | nil => simp
  | cons c rest ih =>
      rw [escapeMarkup_cons]
      rcases escapeChar_cases c with isEntity | ⟨same, plain⟩
      · have long : ∀ pair ∈ entityChars, 1 < pair.1.length := by
          decide
        have marked : ∀ pair ∈ entityChars, pair.2 ∈ '&' :: markupChars := by
          decide
        refine iff_of_false (fun equal => ?_)
          fun none => none c (marked _ isEntity) List.mem_cons_self
        have lengths := congrArg List.length equal
        have longer : 1 < (escapeChar c).length := long _ isEntity
        have kept := length_le_length_escapeMarkup rest
        rw [List.length_append, List.length_cons] at lengths
        omega
      · rw [same, List.singleton_append, List.cons_inj_right, ih]
        refine ⟨fun none d mem => ?_, fun none d mem => ?_⟩
        · rw [List.mem_cons, not_or]
          exact ⟨fun equal => plain (equal ▸ mem), none d mem⟩
        · exact fun inside => none d mem (List.mem_cons_of_mem c inside)

/-- Escaping is undone by replacing entities from left to right, it escapes the parts of a text one
by one, and it keeps exactly the texts without any of the seven characters. -/
theorem escapeHtml_lossless (s t : String) :
    unescapeHtml (escapeHtml s) = s ∧
      escapeHtml (s ++ t) = escapeHtml s ++ escapeHtml t ∧
      (escapeHtml s = s ↔ ∀ c ∈ ['&', '<', '>', '\x22', '\x27', '\x60', '='], c ∉ s.toList) := by
  refine ⟨?_, ?_, ?_⟩
  · rw [unescapeHtml, escapeHtml, String.toList_ofList, unescapeMarkup_escapeMarkup,
      String.ofList_toList]
  · rw [escapeHtml, String.toList_append, escapeMarkup_append, String.ofList_append]
    rfl
  · rw [← String.toList_inj, escapeHtml, String.toList_ofList, escapeMarkup_eq_self_iff]
    rfl

end Stencil.Text
