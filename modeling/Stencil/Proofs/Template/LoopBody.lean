import Stencil.Proofs.Template.Blocks

/-!
# Bodies of loops

Which loops a mark of a template stands in can be told in two ways: by the loops whose opening and
closing tags are on both sides of it with balanced marks in between, and by a stack of loop
variables that an opening tag pushes and a closing tag pops.  On balanced marks both agree.
-/

namespace Stencil.Template

variable {name : String} {word others : List Mark} {place : Nat}

/-- A place of a word is in the body of a loop that binds a name. -/
def InBody (name : String) (word : List Mark) (place : Nat) : Prop :=
  ∃ before collection body after,
    word = before ++ (.eachOpen name collection :: body ++ .eachClose :: after) ∧
      Balanced body ∧ before.length < place ∧ place ≤ before.length + body.length

theorem InBody.prepend (inBody : InBody name word place) (front : List Mark) :
    InBody name (front ++ word) (front.length + place) := by
  rcases inBody with ⟨before, collection, body, after, rfl, balanced, behind, inside⟩
  refine ⟨front ++ before, collection, body, after, ?_, balanced, ?_, ?_⟩
  · rw [List.append_assoc]
  · rw [List.length_append]
    omega
  · rw [List.length_append]
    omega

theorem InBody.append (inBody : InBody name word place) (back : List Mark) :
    InBody name (word ++ back) place := by
  rcases inBody with ⟨before, collection, body, after, rfl, balanced, behind, inside⟩
  refine ⟨before, collection, body, after ++ back, ?_, balanced, behind, inside⟩
  simp only [List.append_assoc, List.cons_append]

/-! ## The variables of open loops -/

/-- The variables of the open loops behind a mark, innermost first. -/
def Mark.enter (bound : List String) : Mark → List String
  | .eachOpen loopVar _ => loopVar :: bound
  | .eachClose => bound.tail
  | .text _ | .interpolation _ | .index | .ifOpen _ | .ifElse | .ifClose => bound

/-- The variables of the open loops behind some marks, innermost first. -/
def boundBehind (bound : List String) (word : List Mark) : List String :=
  word.foldl Mark.enter bound

@[simp]
theorem boundBehind_nil (bound : List String) : boundBehind bound [] = bound :=
  rfl

@[simp]
theorem boundBehind_cons (bound : List String) (mark : Mark) (rest : List Mark) :
    boundBehind bound (mark :: rest) = boundBehind (mark.enter bound) rest :=
  rfl

@[simp]
theorem boundBehind_append (bound : List String) (word others : List Mark) :
    boundBehind bound (word ++ others) = boundBehind (boundBehind bound word) others :=
  List.foldl_append

/-- Marks that close the loops that they open and no other ones.  At a place among them, loops that
they open are open on top of those around them; only at a closing tag its loop is open as well,
although the place is not in the body. -/
structure Nested (word : List Mark) : Prop where
  keeps : ∀ bound, boundBehind bound word = bound
  inside : ∀ bound place, word[place]? ≠ some .eachClose →
    ∃ inner, boundBehind bound (word.take place) = inner ++ bound ∧
      ∀ name ∈ inner, InBody name word place

namespace Nested

theorem nil : Nested [] where
  keeps _ := rfl
  inside bound place _ := ⟨[], by simp, by simp⟩

theorem append (nested : Nested word) (also : Nested others) : Nested (word ++ others) where
  keeps bound := by rw [boundBehind_append, nested.keeps, also.keeps]
  inside bound place notClose := by
    by_cases isFirst : place < word.length
    · rw [List.getElem?_append_left isFirst] at notClose
      rcases nested.inside bound place notClose with ⟨inner, bound_eq, inBody⟩
      refine ⟨inner, ?_, fun name mem => (inBody name mem).append others⟩
      rw [List.take_append_of_le_length (Nat.le_of_lt isFirst), bound_eq]
    · have le := Nat.le_of_not_lt isFirst
      rcases Nat.exists_eq_add_of_le le with ⟨behind, rfl⟩
      rw [List.getElem?_append_right le, Nat.add_sub_cancel_left] at notClose
      rcases also.inside bound behind notClose with ⟨inner, bound_eq, inBody⟩
      refine ⟨inner, ?_, fun name mem => (inBody name mem).prepend word⟩
      rw [List.take_length_add_append, boundBehind_append, nested.keeps, bound_eq]

/-- A mark that neither opens nor closes a loop. -/
theorem singleton {mark : Mark} (keeps : ∀ bound, mark.enter bound = bound) : Nested [mark] where
  keeps := keeps
  inside bound place _ := by
    refine ⟨[], ?_, by simp⟩
    cases place with
    | zero => rfl
    | succ before => simpa using keeps bound

/-- Balanced marks between the tags of a loop. -/
theorem each (loopVar collection : String) {body : List Mark} (balanced : Balanced body)
    (nested : Nested body) : Nested (.eachOpen loopVar collection :: body ++ [.eachClose]) where
  keeps bound := by simp [nested.keeps, Mark.enter]
  inside bound place notClose := by
    cases place with
    | zero => exact ⟨[], rfl, by simp⟩
    | succ before =>
        rw [List.cons_append, List.getElem?_cons_succ] at notClose
        rw [List.cons_append, List.take_succ_cons, boundBehind_cons]
        rcases Nat.lt_trichotomy before body.length with inside | atClose | behind
        · rw [List.getElem?_append_left inside] at notClose
          rcases nested.inside (loopVar :: bound) before notClose with ⟨inner, bound_eq, inBody⟩
          refine ⟨inner ++ [loopVar], ?_, fun name mem => ?_⟩
          · rw [List.take_append_of_le_length (Nat.le_of_lt inside), Mark.enter, bound_eq]
            simp
          · rcases List.mem_append.mp mem with mem | mem
            · have inWhole := ((inBody name mem).append [.eachClose]).prepend
                [.eachOpen loopVar collection]
              rwa [List.length_singleton, Nat.add_comm] at inWhole
            · rcases List.mem_singleton.mp mem with rfl
              refine ⟨[], collection, body, [], rfl, balanced, Nat.succ_pos before, ?_⟩
              rw [List.length_nil, Nat.zero_add]
              exact inside
        · simp [atClose] at notClose
        · refine ⟨[], ?_, by simp⟩
          have all : (body ++ [Mark.eachClose]).length ≤ before := by
            rw [List.length_append]
            exact behind
          rw [List.take_of_length_le all]
          simp [Mark.enter, nested.keeps]

end Nested

theorem nested_of_balanced (balanced : Balanced word) : Nested word := by
  induction balanced with
  | nil => exact .nil
  | text s _ ih => exact (Nested.singleton fun _ => rfl).append ih
  | interpolation source _ ih => exact (Nested.singleton fun _ => rfl).append ih
  | index _ ih => exact (Nested.singleton fun _ => rfl).append ih
  | ifThen condition _ _ bodyIh restIh =>
      have opening : Nested [Mark.ifOpen condition] := .singleton fun _ => rfl
      have closing : Nested [Mark.ifClose] := .singleton fun _ => rfl
      simpa using ((opening.append bodyIh).append closing).append restIh
  | ifElse condition _ _ _ bodyIh alternativeIh restIh =>
      have opening : Nested [Mark.ifOpen condition] := .singleton fun _ => rfl
      have turning : Nested [Mark.ifElse] := .singleton fun _ => rfl
      have closing : Nested [Mark.ifClose] := .singleton fun _ => rfl
      have block := (((opening.append bodyIh).append turning).append alternativeIh).append closing
      simpa using block.append restIh
  | each loopVar collection balanced _ bodyIh restIh =>
      simpa using (bodyIh.each loopVar collection balanced).append restIh

/-- The loops that are open at a place among balanced marks are those whose bodies the place is in,
except at the closing tag of a loop. -/
theorem mem_boundBehind_iff (balanced : Balanced word) (notClose : word[place]? ≠ some .eachClose) :
    name ∈ boundBehind [] (word.take place) ↔ InBody name word place := by
  constructor
  · intro bound
    rcases (nested_of_balanced balanced).inside [] place notClose with ⟨inner, bound_eq, inBody⟩
    rw [bound_eq, List.append_nil] at bound
    exact inBody name bound
  · rintro ⟨before, collection, body, after, rfl, bodyBalanced, behind, inside⟩
    -- Up to the place stand the marks before the loop, its opening tag and a part of its body.
    obtain ⟨index, rfl⟩ : ∃ index, place = before.length + (index + 1) :=
      ⟨place - before.length - 1, by omega⟩
    have index_lt : index < body.length := by omega
    rw [List.getElem?_append_right (Nat.le_add_right _ _), Nat.add_sub_cancel_left,
      List.cons_append, List.getElem?_cons_succ, List.getElem?_append_left index_lt] at notClose
    rcases (nested_of_balanced bodyBalanced).inside
        (name :: boundBehind [] before) index notClose with ⟨inner, bound_eq, _⟩
    rw [List.take_length_add_append, boundBehind_append, List.cons_append, List.take_succ_cons,
      boundBehind_cons, List.take_append_of_le_length (Nat.le_of_lt index_lt), Mark.enter, bound_eq]
    simp

end Stencil.Template
