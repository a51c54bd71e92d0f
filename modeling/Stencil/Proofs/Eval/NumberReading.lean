import Stencil.Eval.Namespace
import Stencil.Proofs.Number.DecimalPrefix
import Stencil.Proofs.Number.IntegerPrefix
import Stencil.Proofs.Number.Rounding

/-!
# Numbers read from texts

Two functions read the number at the front of a text and ignore what follows it: one reads the
longest decimal number, the other one the integer in a radix.  An integer is read in radix ten if no
radix is asked for, so that the mark of hexadecimal digits is not seen.
-/

namespace Stencil

open Calendar (Instant)
open Number
open Text (trimStart utf8Bytes)

/-! ## Decimal numbers -/

/-- The longest decimal number at the front of a text is read, behind white space, and what begins
with no number gives NaN.  Giving back what a scan takes too much ends, and never within a
character. -/
theorem Builtin.callMember_parseFloat (s : String) (more : Arguments) (now : Instant) :
    ∃ n, callMember now (.string s :: more) .number "parseFloat" = .ok (.number n) ∧
      ReadsNumber (trimStart s.toList) n ∧
      (n.isNaN = true ↔ (∀ sign, ¬ BeginsInfinite (trimStart s.toList) sign) ∧
        ∀ front m, front <+: trimStart s.toList → ¬ WritesDecimal front m) ∧
      ((∃ sign, BeginsInfinite (trimStart s.toList) sign) ∨
        GivesBack (trimStart s.toList)
          (Scan.start.reach ((trimStart s.toList).flatMap utf8Bytes)) n) := by
  have reads := readsNumber_readPrefix s
  refine ⟨readPrefix s, rfl, reads, reads.isNaN_iff, ?_⟩
  by_cases begins : ∃ sign, BeginsInfinite (trimStart s.toList) sign
  · exact .inl begins
  · rw [readPrefix_of_not_beginsInfinite (not_exists.mp begins)]
    exact .inr (givesBack_giveBack le_rfl)

/-! ## Integers -/

/-- The arguments behind a text that ask for a radix: none, `undefined`, or a whole number. -/
inductive AsksRadix : Arguments → Option ℕ → Prop where
  | absent : AsksRadix [] none
  | undefined : AsksRadix [.undefined] none
  | number {x : Binary64} {radix : ℕ} :
      x.isInteger → x.toInt = radix → radix ≤ 2 ^ 31 → AsksRadix [.number x] (some radix)

theorem asksRadix_zero : AsksRadix [.number .zero] (some 0) := by
  have whole : Binary64.zero.isInteger := Binary64.isInteger_of_isZero rfl
  exact .number whole ((Binary64.toInt_eq_zero_iff whole).mpr rfl) (Nat.zero_le _)

theorem nearestWord_of_isInteger {x : Binary64} {radix : ℕ} (whole : x.isInteger)
    (value : x.toInt = radix) (small : radix ≤ 2 ^ 31) : nearestWord x = radix := by
  have finite : x.isFinite := (Bool.and_eq_true_iff.mp whole).1
  rw [nearestWord, Binary64.toWhole, Binary64.isNaN_of_isFinite finite,
    Binary64.isInfinite_of_isFinite finite, value]
  exact Nat.min_eq_left (small.trans (by decide))

/-- Without an argument the radix is ten. -/
theorem AsksRadix.callMember_eq {radix : Arguments} {asked : Option ℕ}
    (asks : AsksRadix radix asked) (s : String) (now : Instant) :
    Builtin.callMember now (.string s :: radix) .number "parseInt" =
      .ok (.number (readInteger s (asked.getD 10))) := by
  cases asks with
  | absent => rfl
  | undefined => rfl
  | number whole value small =>
      have word := nearestWord_of_isInteger whole value small
      rw [Option.getD_some, ← word]
      rfl

/-- An asked radix reads the integer at the front of a text.  Without a radix, ten is taken in place
of zero, which would stand for sixteen behind `0x`.  So the integer of radix zero is read exactly if
the text has no such mark, or if that integer is a zero too. -/
theorem Builtin.callMember_parseInt {radix : Arguments} {asked : Option ℕ}
    (asks : AsksRadix radix asked) (s : String) (now : Instant) :
    (∃ n, callMember now (.string s :: radix) .number "parseInt" = .ok (.number n) ∧
      ReadsInteger (asked.getD 10) s.toList n ∧
      (ReadsInteger (asked.getD 0) s.toList n ↔
        (asked = none → ∀ sign, HexMarked s.toList sign →
          ReadsInteger 0 s.toList (.signedZero (decide (sign = ['-'])))))) ∧
    (callMember now [.string s] .number "parseInt" =
        callMember now [.string s, .number .zero] .number "parseInt" ↔
      ∀ sign, HexMarked s.toList sign →
        ReadsInteger 0 s.toList (.signedZero (decide (sign = ['-'])))) := by
  have withoutRadix := @readInteger_ten_eq_zero_iff s
  constructor
  · refine ⟨_, asks.callMember_eq s now, readInteger_eq_iff.mp rfl, ?_⟩
    simp only [← readInteger_eq_iff]
    cases asked with
    | none => simpa using eq_comm.trans withoutRadix
    | some radix => simp
  · rw [AsksRadix.absent.callMember_eq s now, asksRadix_zero.callMember_eq s now]
    simpa only [← readInteger_eq_iff, Except.ok.injEq, Value.number.injEq, Option.getD_none,
      Option.getD_some] using withoutRadix

/-- Behind white space and a sign, radix sixteen skips the mark, and what is no digit ends the
integer. -/
theorem Builtin.callMember_parseInt_negative_hex :
    AsksRadix [.number (.ofNat 16)] (some 16) ∧
      ReadsInteger 16 " -0x1Fg".toList (.ofInt (-31)) ∧
      callMember ⟨0, 0⟩ [.string " -0x1Fg", .number (.ofNat 16)] .number "parseInt" =
        .ok (.number (.ofInt (-31))) := by
  have asks : AsksRadix [.number (.ofNat 16)] (some 16) := .number rfl rfl (by decide)
  rcases (Builtin.callMember_parseInt asks " -0x1Fg" ⟨0, 0⟩).1 with ⟨n, called, reads, -⟩
  have value : readInteger " -0x1Fg" 16 = .ofInt (-31) := by decide +kernel
  rw [(readInteger_eq_of_reads reads).symm.trans value] at called
  exact ⟨asks, readInteger_eq_iff.mp value, called⟩

/-- Without a radix, hexadecimal text is read as zero. -/
theorem Builtin.callMember_parseInt_unasked_hex :
    callMember ⟨0, 0⟩ [.string "0x1F"] .number "parseInt" = .ok (.number .zero) ∧
      ReadsInteger 0 "0x1F".toList (.ofNat 31) ∧
      callMember ⟨0, 0⟩ [.string "0x1F", .number .zero] .number "parseInt" =
        .ok (.number (.ofNat 31)) ∧
      Binary64.ofNat 31 ≠ .zero := by
  have ten : readInteger "0x1F" 10 = .zero := by decide +kernel
  have value : readInteger "0x1F" 0 = .ofNat 31 := by decide +kernel
  refine ⟨?_, readInteger_eq_iff.mp value, ?_, by decide⟩
  · rw [AsksRadix.absent.callMember_eq, Option.getD_none, ten]
  · rw [asksRadix_zero.callMember_eq, Option.getD_some, value]

end Stencil
