import Stencil.Proofs.Expr.Recognition
import Stencil.Proofs.Expr.WrittenToken

/-!
# Scanning piece by piece

A text is scanned from the left, white space and tokens in turn, and what has been scanned does not
depend on how the rest is.  So the pieces of a text are scanned one by one, and a text whose pieces
leave nothing is scanned as a whole.
-/

namespace Stencil.Expr

open Text

/-- The tokens at the front of a text and what follows them. -/
inductive Scans : List Char → List Token → List Char → Prop where
  | done {s : List Char} : Scans s [] s
  | space {c : Char} {s rest : List Char} {tokens : List Token} :
      isSpace c = true → Scans s tokens rest → Scans (c :: s) tokens rest
  | token {c : Char} {s middle rest : List Char} {token : Token} {tokens : List Token} :
      scanToken c s = .ok (token, middle) →
      Scans middle tokens rest →
      Scans (c :: s) (token :: tokens) rest

variable {s middle rest space written : List Char} {c : Char} {token : Token}
  {tokens others : List Token}

theorem Scans.append (scans : Scans s tokens middle) (more : Scans middle others rest) :
    Scans s (tokens ++ others) rest := by
  induction scans with
  | done => exact more
  | space isSpace _ ih => exact .space isSpace (ih more)
  | token scanned _ ih => exact .token scanned (ih more)

theorem Scans.blank (blank : Blank space) (scans : Scans s tokens rest) :
    Scans (space ++ s) tokens rest := by
  induction space with
  | nil => exact scans
  | cons c more ih =>
      exact .space (blank c List.mem_cons_self)
        (ih fun d mem => blank d (List.mem_cons_of_mem c mem))

theorem Scans.single (writes : WritesToken written token) (stops : Stops (goesOn token) rest) :
    Scans (written ++ rest) [token] rest := by
  rcases scanToken_append writes stops with ⟨c, more, rfl, scanned⟩
  exact .token scanned .done

/-! ## The scanner -/

/-- A token begins with no white space. -/
theorem not_isSpace_of_scanToken (scanned : scanToken c s = .ok (token, rest)) :
    isSpace c = false := by
  rcases exists_writes_of_scanToken scanned with ⟨written, writes, split⟩
  have stops : Stops isSpace (written ++ rest) := writes.stops_isSpace
  rw [← split] at stops
  exact stops c rfl

theorem scanFrom_blank (offset : Nat) (blank : Blank space) :
    scanFrom offset space = .ok [⟨offset + space.length, .stop⟩] := by
  rw [scanFrom]
  split
  · rfl
  · rename_i trimmed
    rw [trimStart_eq_nil_iff.mpr blank] at trimmed
    cases trimmed

/-- A token behind white space, and what is scanned behind it. -/
theorem scanFrom_append (offset : Nat) (blank : Blank space)
    (scanned : scanToken c s = .ok (token, rest)) :
    scanFrom offset (space ++ c :: s) =
      (scanFrom (offset + space.length + (s.length + 1 - rest.length)) rest).map
        (⟨offset + space.length, token⟩ :: ·) := by
  have solid : Stops isSpace (c :: s) := stops_cons (not_isSpace_of_scanToken scanned) s
  rw [scanFrom]
  split
  · rename_i trimmed
    rw [trimStart_append blank solid] at trimmed
    cases trimmed
  · rename_i d more trimmed
    rw [trimStart_append blank solid] at trimmed
    cases trimmed
    rw [leadingSpaces_append blank solid]
    split
    · rename_i refused
      rw [scanned] at refused
      cases refused
    · rename_i found
      rw [scanned] at found
      cases found
      dsimp only
      cases scanFrom (offset + space.length + (s.length + 1 - rest.length)) rest <;> rfl

/-- A text that is scanned up to its end has these tokens. -/
theorem Scans.exists_scanFrom (scans : Scans s tokens []) (offset : Nat) :
    ∃ lexemes, scanFrom offset s = .ok lexemes ∧ tokensOf lexemes = tokens ++ [.stop] := by
  -- White space in front of a token is scanned together with it.
  suffices behind : ∀ space, Blank space →
      ∃ lexemes, scanFrom offset (space ++ s) = .ok lexemes ∧
        tokensOf lexemes = tokens ++ [.stop] from behind [] blank_nil
  generalize atEnd : ([] : List Char) = rest at scans
  induction scans generalizing offset with
  | done =>
      subst atEnd
      intro space blank
      rw [List.append_nil, scanFrom_blank offset blank]
      exact ⟨_, rfl, rfl⟩
  | @space c s _ _ isSpace _ ih =>
      intro space blank
      have longer : Blank (space ++ [c]) := by
        intro d mem
        rcases List.mem_append.mp mem with mem | mem
        · exact blank d mem
        · exact List.mem_singleton.mp mem ▸ isSpace
      simpa using ih offset atEnd _ longer
  | @token c s middle _ token _ scanned _ ih =>
      intro space blank
      rcases ih (offset + space.length + (s.length + 1 - middle.length)) atEnd [] blank_nil with
        ⟨lexemes, scannedRest, spelled⟩
      rw [List.nil_append] at scannedRest
      rw [scanFrom_append offset blank scanned, scannedRest]
      exact ⟨_, rfl, by simp [spelled]⟩

/-- A scanned text is blank, or it begins with a written token behind white space. -/
theorem scanFrom_cases {offset : Nat} {lexemes : List Lexeme}
    (scanned : scanFrom offset s = .ok lexemes) :
    (Blank s ∧ lexemes = [⟨offset + s.length, .stop⟩]) ∨
      ∃ space written rest token behind, Blank space ∧ WritesToken written token ∧
        s = space ++ (written ++ rest) ∧
        scanFrom (offset + space.length + written.length) rest = .ok behind ∧
        lexemes = ⟨offset + space.length, token⟩ :: behind := by
  rw [scanFrom] at scanned
  split at scanned
  · rename_i trimmed
    cases scanned
    exact .inl ⟨trimStart_eq_nil_iff.mp trimmed, rfl⟩
  · rename_i c more trimmed
    split at scanned
    · cases scanned
    · rename_i token rest scannedToken
      rcases bind_eq_ok_iff.mp scanned with ⟨behind, scannedRest, done⟩
      cases done
      rcases exists_writes_of_scanToken scannedToken with ⟨written, writes, split⟩
      have taken : more.length + 1 - rest.length = written.length := by
        have lengths := congrArg List.length split
        rw [List.length_cons, List.length_append] at lengths
        omega
      rw [taken] at scannedRest
      refine .inr ⟨_, written, rest, token, behind, blank_takeWhile s, writes, ?_, scannedRest, rfl⟩
      rw [← split, ← trimmed, trimStart_append_leading]

theorem WritesToken.ne_stop (writes : WritesToken written token) : token ≠ .stop := by
  cases writes with
  | word _ => exact ofWord_ne_stop _
  | _ => nofun

/-- A text of a single token is a written form of it. -/
theorem writes_of_scan {source : String} {lexemes : List Lexeme}
    (scanned : scan source = .ok lexemes) (single : tokensOf lexemes = [token, .stop]) :
    WritesToken (trim source.toList) token := by
  rcases scanFrom_cases scanned with
    ⟨_, rfl⟩ | ⟨space, written, rest, found, behind, blank, writes, split, scannedRest, rfl⟩
  · cases single
  · rcases List.cons.inj single with ⟨rfl, alone⟩
    rcases scanFrom_cases scannedRest with
      ⟨blankRest, _⟩ | ⟨_, _, _, next, _, _, nextWrites, _, _, rfl⟩
    · rw [split, trim, trimStart_append blank writes.stops_isSpace,
        trimEnd_append blankRest writes.not_isSpace_getLast]
      exact writes
    · exact absurd (List.cons.inj alone).1 nextWrites.ne_stop

end Stencil.Expr
