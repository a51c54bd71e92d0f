import Mathlib.Data.List.Forall2
import Stencil.Proofs.Expr.Placeless
import Stencil.Proofs.Expr.Scanning

/-!
# White space between tokens

The tokens of an expression tile its text: each stands in a slice of its own, and between the slices
there is nothing but white space.  Other white space in its place leaves the tokens as they are, and
so what they spell.
-/

namespace Stencil.Expr

open Text

/-- The pieces of a text from each place up to the next one, without white space behind them. -/
def slicesAt (s : List Char) (offsets : List Nat) : List (List Char) :=
  (offsets.zip offsets.tail).map fun (start, stop) => trimEnd ((s.take stop).drop start)

/-- Slices with a gap behind each. -/
def spaced (slices gaps : List (List Char)) : List Char :=
  (slices.zipWith (· ++ ·) gaps).flatten

/-- The tokens of a text that starts at a place, the slices in which they stand, and the gaps behind
the slices. -/
inductive Tiles : Nat → List Char → List Lexeme → List (List Char) → List (List Char) → Prop where
  | done {offset : Nat} : Tiles offset [] [⟨offset, .stop⟩] [] []
  | token {offset : Nat} {written gap rest : List Char} {token : Token} {lexemes : List Lexeme}
      {slices gaps : List (List Char)} :
      WritesToken written token →
      Blank gap →
      Tiles (offset + written.length + gap.length) rest lexemes slices gaps →
      Tiles offset (written ++ (gap ++ rest)) (⟨offset, token⟩ :: lexemes) (written :: slices)
        (gap :: gaps)

variable {offset : Nat} {s pre space : List Char} {lexemes : List Lexeme} {tokens : List Token}
  {slices gaps : List (List Char)}

/-! ## Scanned texts are tiled -/

theorem exists_tiles_of_scanFrom (scanned : scanFrom offset s = .ok lexemes) :
    ∃ lead rest slices gaps, Blank lead ∧ s = lead ++ rest ∧
      Tiles (offset + lead.length) rest lexemes slices gaps := by
  induction length : s.length using Nat.strongRecOn generalizing offset s lexemes with
  | _ n ih =>
      rcases scanFrom_cases scanned with
        ⟨blank, rfl⟩ | ⟨lead, written, rest, token, behind, blank, writes, rfl, scannedRest, rfl⟩
      · exact ⟨s, [], [], [], blank, by simp, .done⟩
      · have shorter : rest.length < n := by
          have nonempty := List.length_pos_iff.mpr writes.ne_nil
          simp only [List.length_append] at length
          omega
        rcases ih _ shorter scannedRest rfl with ⟨gap, more, slices, gaps, blankGap, rfl, tiles⟩
        exact ⟨lead, _, _, _, blank, rfl, .token writes blankGap tiles⟩

theorem Tiles.spaced_eq (tiles : Tiles offset s lexemes slices gaps) : s = spaced slices gaps := by
  induction tiles with
  | done => rfl
  | token _ _ _ ih => rw [ih, spaced, spaced, List.zipWith_cons_cons, List.flatten_cons,
      List.append_assoc]

theorem Tiles.length_gaps (tiles : Tiles offset s lexemes slices gaps) :
    gaps.length = slices.length := by
  induction tiles with
  | done => rfl
  | token _ _ _ ih => rw [List.length_cons, List.length_cons, ih]

theorem Tiles.blank_gaps (tiles : Tiles offset s lexemes slices gaps) :
    ∀ gap ∈ gaps, Blank gap := by
  induction tiles with
  | done => exact nofun
  | token _ blank _ ih => exact List.forall_mem_cons.mpr ⟨blank, ih⟩

theorem Tiles.exists_body (tiles : Tiles offset s lexemes slices gaps) :
    ∃ body last, lexemes = body ++ [last] ∧ last.item = .stop ∧
      List.Forall₂ WritesToken slices (tokensOf body) := by
  induction tiles with
  | done => exact ⟨[], _, rfl, rfl, .nil⟩
  | @token offset _ _ _ token _ _ _ writes _ _ ih =>
      rcases ih with ⟨body, last, rfl, isStop, written⟩
      exact ⟨⟨offset, token⟩ :: body, last, rfl, isStop, .cons writes written⟩

/-- The first token stands where the text starts. -/
theorem Tiles.exists_cons (tiles : Tiles offset s lexemes slices gaps) :
    ∃ token others, lexemes = ⟨offset, token⟩ :: others := by
  cases tiles with
  | done => exact ⟨_, _, rfl⟩
  | token _ _ _ => exact ⟨_, _, rfl⟩

theorem Tiles.le_offset (tiles : Tiles offset s lexemes slices gaps) :
    ∀ t ∈ lexemes, offset ≤ t.offset := by
  induction tiles with
  | done => simp
  | token _ _ _ ih =>
      refine List.forall_mem_cons.mpr ⟨Nat.le_refl _, fun t mem => ?_⟩
      have further := ih t mem
      omega

theorem Tiles.increasing (tiles : Tiles offset s lexemes slices gaps) :
    (lexemes.map (·.offset)).Pairwise (· < ·) := by
  induction tiles with
  | done => simp
  | token writes _ tiles ih =>
      rw [List.map_cons, List.pairwise_cons]
      refine ⟨fun place mem => ?_, ih⟩
      rcases List.mem_map.mp mem with ⟨t, found, rfl⟩
      have behind := tiles.le_offset t found
      have nonempty := List.length_pos_iff.mpr writes.ne_nil
      dsimp only
      omega

/-- Cut at the places of its tokens, a text falls into its slices. -/
theorem Tiles.slicesAt_eq (tiles : Tiles offset s lexemes slices gaps)
    (start : offset = pre.length) :
    slicesAt (pre ++ s) (lexemes.map (·.offset)) = slices := by
  induction tiles generalizing pre with
  | done => rfl
  | @token offset written gap rest token lexemes slices gaps writes blank tiles ih =>
      rcases tiles.exists_cons with ⟨next, others, rfl⟩
      have further : offset + written.length + gap.length = (pre ++ (written ++ gap)).length := by
        simp [start, Nat.add_assoc]
      have behind := ih further
      have cut : ((pre ++ (written ++ (gap ++ rest))).take
          (offset + written.length + gap.length)).drop offset = written ++ gap := by
        rw [start, ← List.append_assoc written, ← List.append_assoc pre,
          List.take_left' (by simp; omega),
          List.drop_left]
      simp only [slicesAt, List.map_cons, List.tail_cons, List.zip_cons_cons] at behind ⊢
      rw [cut, trimEnd_append blank writes.not_isSpace_getLast]
      simp only [List.append_assoc] at behind
      rw [behind]

/-- Written tokens are not empty, and none of them is an end. -/
theorem not_mem_of_writes (writes : List.Forall₂ WritesToken slices tokens) :
    [] ∉ slices ∧ .stop ∉ tokens := by
  induction writes with
  | nil => simp
  | cons first _ ih => simp [ih, first.ne_nil.symm, first.ne_stop.symm]

/-! ## Other gaps -/

/-- Written tokens with white space between them are scanned as themselves. -/
theorem scans_spaced (writes : List.Forall₂ WritesToken slices tokens)
    (sameLength : gaps.length = slices.length) (blank : ∀ gap ∈ gaps, Blank gap)
    (apart : ∀ gap ∈ gaps.dropLast, gap ≠ []) : Scans (spaced slices gaps) tokens [] := by
  induction writes generalizing gaps with
  | nil => exact .done
  | @cons written token slices tokens writes _ ih =>
      cases gaps with
      | nil => cases sameLength
      | cons gap gaps =>
          rcases List.forall_mem_cons.mp blank with ⟨blankGap, blankGaps⟩
          have others : Scans (spaced slices gaps) tokens [] := by
            refine ih (by simpa using sameLength) blankGaps fun other mem => apart other ?_
            cases gaps with
            | nil => cases mem
            | cons _ _ => exact List.mem_cons_of_mem gap mem
          have stops : Stops (goesOn token) (gap ++ spaced slices gaps) := by
            cases gap with
            | cons c more =>
                exact stops_cons (goesOn_of_isSpace token (blankGap c List.mem_cons_self)) _
            | nil =>
                -- Only the last gap may be empty, and nothing follows it.
                cases gaps with
                | nil =>
                    cases slices with
                    | nil => exact stops_nil
                    | cons _ _ => cases sameLength
                | cons _ _ => exact absurd rfl (apart [] (by simp))
          have first := Scans.single writes stops
          rw [spaced, List.zipWith_cons_cons, List.flatten_cons, List.append_assoc]
          exact first.append (others.blank blankGap)

/-- The tokens of an expression stand at increasing places up to one end.  Cut there, the text falls
into a slice for each token and white space.  The slices joined with other white space, at least one
character between two of them, are scanned as the same tokens and spell the same expression, or what
is wrong with them is the same. -/
theorem scan_of_spaced {source : String} {lexemes : List Lexeme}
    (scanned : scan source = .ok lexemes) :
    ∃ body last slices, lexemes = body ++ [last] ∧ last.item = .stop ∧ .stop ∉ tokensOf body ∧
      (lexemes.map (·.offset)).Pairwise (· < ·) ∧
      slicesAt source.toList (lexemes.map (·.offset)) = slices ∧
      slices.length = body.length ∧ [] ∉ slices ∧
      (∃ lead gaps, Blank lead ∧ gaps.length = slices.length ∧ (∀ gap ∈ gaps, Blank gap) ∧
        source.toList = lead ++ spaced slices gaps) ∧
      ∀ (lead : List Char) (gaps : List (List Char)) (other : String), Blank lead →
        gaps.length = slices.length → (∀ gap ∈ gaps, Blank gap) →
        (∀ gap ∈ gaps.dropLast, gap ≠ []) → other.toList = lead ++ spaced slices gaps →
        (∃ others, scan other = .ok others ∧ tokensOf others = tokensOf lexemes) ∧
          (parse other).mapError (·.item) = (parse source).mapError (·.item) := by
  rcases exists_tiles_of_scanFrom scanned with ⟨lead, rest, slices, gaps, blank, split, tiles⟩
  rcases tiles.exists_body with ⟨body, last, rfl, isStop, writes⟩
  rcases not_mem_of_writes writes with ⟨nonempty, noStop⟩
  refine ⟨body, last, slices, rfl, isStop, noStop, tiles.increasing, ?_, ?_, nonempty, ?_, ?_⟩
  · rw [split]
    exact tiles.slicesAt_eq (Nat.zero_add _)
  · simpa using writes.length_eq
  · exact ⟨lead, gaps, blank, tiles.length_gaps, tiles.blank_gaps, by rw [split, tiles.spaced_eq]⟩
  · intro lead gaps other blank sameLength blankGaps apart split
    have scans := (scans_spaced writes sameLength blankGaps apart).blank blank
    rw [← split] at scans
    rcases scans.exists_scanFrom 0 with ⟨others, scannedOther, spelled⟩
    have same : tokensOf others = tokensOf (body ++ [last]) := by
      simp [spelled, isStop]
    refine ⟨⟨others, scannedOther, same⟩, ?_⟩
    rw [parse, parse, scanned, scan, scannedOther]
    exact ofLexemes_mapError_congr same

/-- A hexadecimal literal and the name directly behind it. -/
theorem scan_of_spaced_hex :
    scan "0x1g+1" = .ok [⟨0, .number (Binary64.ofNat 1)⟩, ⟨3, .name "g"⟩, ⟨4, .symbol .plus⟩,
        ⟨5, .number (Binary64.ofNat 1)⟩, ⟨6, .stop⟩] ∧
      (∃ others, scan " 0x1\tg + 1" = .ok others ∧
        tokensOf others = [.number (Binary64.ofNat 1), .name "g", .symbol .plus,
          .number (Binary64.ofNat 1), .stop]) ∧
      (parse " 0x1\tg + 1").mapError (·.item) = (parse "0x1g+1").mapError (·.item) := by
  have scanned : scan "0x1g+1" = .ok [⟨0, .number (Binary64.ofNat 1)⟩, ⟨3, .name "g"⟩,
      ⟨4, .symbol .plus⟩, ⟨5, .number (Binary64.ofNat 1)⟩, ⟨6, .stop⟩] := by
    decide +kernel
  rcases scan_of_spaced scanned with ⟨_, _, slices, _, _, _, _, cut, _, _, _, respaced⟩
  have cut : slices = [['0', 'x', '1'], ['g'], ['+'], ['1']] := by
    rw [← cut]
    decide
  subst cut
  exact ⟨scanned,
    respaced [' '] [['\t'], [' '], [' '], []] _ (by decide) rfl (by decide) (by decide)
    (by decide)⟩

end Stencil.Expr
