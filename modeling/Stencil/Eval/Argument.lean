import Stencil.Number.Arithmetic
import Stencil.Value.Basic

/-!
# Arguments

Arguments are converted as they are asked for.  A missing argument is `undefined`.  Positions and
counts are whole numbers or infinities.
-/

namespace Stencil

/-- A whole number or an infinity. -/
inductive Whole where
  | finite (n : Int)
  | infinite (negative : Bool)
  deriving DecidableEq

/-- A number without its fraction.  What is not a number counts as zero. -/
def Binary64.toWhole (x : Binary64) : Whole :=
  if x.isNaN then .finite 0
  else if x.isInfinite then .infinite x.negative
  else .finite x.toInt

namespace Whole

/-- A natural number. -/
def ofNat (n : Nat) : Whole :=
  .finite n

/-- Whether a number is below zero. -/
def isNegative : Whole → Bool
  | finite n => n < 0
  | infinite negative => negative

/-- The nearest number between zero and `limit`. -/
def clamp (limit : Nat) : Whole → Nat
  | finite n => min n.toNat limit
  | infinite negative => if negative then 0 else limit

/-- A negative number counted from `length`. -/
def fromEnd (length : Nat) : Whole → Whole
  | finite n => .finite (if n < 0 then length + n else n)
  | infinite negative => .infinite negative

/-- The nearest position between zero and `length`, negative numbers being counted from there. -/
def relative (length : Nat) (w : Whole) : Nat :=
  (w.fromEnd length).clamp length

/-- The position of an element, if there is one. -/
def position? (length : Nat) : Whole → Option Nat
  | finite n => if 0 ≤ n && n < length then some n.toNat else none
  | infinite _ => none

theorem clamp_le (limit : Nat) (w : Whole) : w.clamp limit ≤ limit := by
  unfold clamp
  split
  · exact Nat.min_le_right _ _
  · split <;> omega

theorem relative_le (length : Nat) (w : Whole) : w.relative length ≤ length :=
  clamp_le _ _

theorem position?_lt {length i : Nat} {w : Whole} (found : w.position? length = some i) :
    i < length := by
  unfold position? at found
  split at found
  · simp only [Bool.and_eq_true, decide_eq_true_eq] at found
    split at found
    · simp only [Option.some.injEq] at found
      omega
    · cases found
  · cases found

end Whole

/-- The arguments of a call. -/
abbrev Arguments :=
  List Value

namespace Arguments

/-- An argument by its place. -/
def value (args : Arguments) (i : Nat) : Value :=
  args[i]?.getD .undefined

/-- An argument as text. -/
def text (args : Arguments) (i : Nat) : String :=
  (value args i).text

/-- An argument as text. -/
def chars (args : Arguments) (i : Nat) : List Char :=
  (text args i).toList

/-- An argument as a number. -/
def number (args : Arguments) (i : Nat) : Binary64 :=
  (value args i).toNumber

/-- An argument as text, unless it is `undefined`. -/
def textOr (args : Arguments) (i : Nat) (default : String) : String :=
  match value args i with
  | .undefined => default
  | v => v.text

/-- An argument as a whole number, unless it is `undefined`. -/
def whole (args : Arguments) (i : Nat) (default : Whole) : Whole :=
  match value args i with
  | .undefined => default
  | v => v.toNumber.toWhole

end Arguments

end Stencil
