/-!
# Occurrences in a text

First and last occurrences, cutting a text at an occurrence, splitting at all of them, and putting
another text in their place.
Positions count characters.
-/

namespace Stencil.Text

/-- Position of the first occurrence of `needle`. -/
def findFirst (needle : List Char) : List Char → Option Nat
  | [] => if needle.isEmpty then some 0 else none
  | c :: rest =>
      if needle.isPrefixOf (c :: rest) then some 0 else (findFirst needle rest).map (· + 1)

/-- Position of the first occurrence of `needle` at `start` or later. -/
def findFrom (needle text : List Char) (start : Nat) : Option Nat :=
  (findFirst needle (text.drop start)).map (· + start)

/-- Position of the last occurrence of `needle` at `limit` or earlier. -/
def findLast (needle : List Char) : Nat → List Char → Option Nat
  | _, [] => if needle.isEmpty then some 0 else none
  | 0, c :: rest => if needle.isPrefixOf (c :: rest) then some 0 else none
  | limit + 1, c :: rest =>
      match findLast needle limit rest with
      | some i => some (i + 1)
      | none => if needle.isPrefixOf (c :: rest) then some 0 else none

/-- The text before and after the first occurrence of `separator`. -/
def cut? (separator : List Char) : List Char → Option (List Char × List Char)
  | [] => if separator.isEmpty then some ([], []) else none
  | c :: rest =>
      if separator.isPrefixOf (c :: rest) then some ([], (c :: rest).drop separator.length)
      else (cut? separator rest).map fun (before, after) => (c :: before, after)

theorem eq_append_of_cut? {separator s before after : List Char}
    (cut : cut? separator s = some (before, after)) : s = before ++ separator ++ after := by
  induction s generalizing before with
  | nil =>
      simp only [cut?] at cut
      split at cut
      · simp_all
      · cases cut
  | cons c rest ih =>
      simp only [cut?] at cut
      split at cut
      · rename_i here
        rcases List.isPrefixOf_iff_prefix.mp here with ⟨behind, split⟩
        cases cut
        rw [List.nil_append, ← split, List.drop_left]
      · rcases Option.map_eq_some_iff.mp cut with ⟨⟨inner, _⟩, further, same⟩
        cases same
        rw [ih further]
        rfl

/-- The parts between the occurrences of `separator`, found from the left and not overlapping.
Without a separator every character is a part. -/
def splitOn (separator s : List Char) : List (List Char) :=
  if _empty : separator = [] then s.map ([·])
  else
    match _cut : cut? separator s with
    | none => [s]
    | some (before, after) => before :: splitOn separator after
termination_by s.length
decreasing_by
  have lengths := congrArg List.length (eq_append_of_cut? _cut)
  have positive := List.length_pos_iff.mpr _empty
  simp only [List.length_append] at lengths ⊢
  omega

/-- The text with its first occurrence of `pattern` replaced. -/
def replaceFirst (pattern replacement s : List Char) : List Char :=
  match cut? pattern s with
  | none => s
  | some (before, after) => before ++ replacement ++ after

/-- The positions, counted on from `position`, at which `pattern` is found from the left without
overlaps.  The next `skip` characters belong to what was found last. -/
def matchIndices (pattern : List Char) : Nat → Nat → List Char → List Nat
  | _, _, [] => []
  | position, skip + 1, _ :: rest => matchIndices pattern (position + 1) skip rest
  | position, 0, c :: rest =>
      if pattern.isPrefixOf (c :: rest) then
        position :: matchIndices pattern (position + 1) (pattern.length - 1) rest
      else matchIndices pattern (position + 1) 0 rest

/-- The text from `position` on, with the `size` characters at each of some later positions
replaced. -/
def replaceAt (size : Nat) (replacement : List Char) : Nat → List Char → List Nat → List Char
  | _, s, [] => s
  | position, s, start :: more =>
      s.take (start - position) ++ replacement ++
        replaceAt size replacement (start + size) (s.drop (start - position + size)) more

/-- The text with all occurrences of `pattern` replaced.  The empty pattern occurs before every
character and at the end. -/
def replaceAll (pattern replacement s : List Char) : List Char :=
  if pattern.isEmpty then replacement ++ s.flatMap (· :: replacement)
  else replaceAt pattern.length replacement 0 s (matchIndices pattern 0 0 s)

end Stencil.Text
