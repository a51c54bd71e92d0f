import Stencil.Text.Tables.Case
import Stencil.Text.CharClass

/-!
# Case conversion

Full Unicode case mapping of a text: a character may grow into several, and a capital sigma
becomes the final form at the end of a word.
-/

namespace Stencil.Text

/-- The mapping that runs and sequences describe; other code points stay. -/
def mapCase (runs : List CaseRun) (sequences : List (Nat × List Nat)) (code : Nat) : List Char :=
  match sequences.lookup code with
  | some codes => codes.map Char.ofNat
  | none =>
      match runs.find? (·.contains code) with
      | some run => [Char.ofNat (run.apply code)]
      | none => [Char.ofNat code]

/-- The uppercase form of a character. -/
def upperChar (c : Char) : List Char :=
  if c.toNat < 128 then [c.toUpper]
  else mapCase Tables.uppercaseRuns Tables.uppercaseSequences c.toNat

/-- The lowercase form of a character on its own. -/
def lowerChar (c : Char) : List Char :=
  if c.toNat < 128 then [c.toLower]
  else mapCase Tables.lowercaseRuns Tables.lowercaseSequences c.toNat

/-- The uppercase form of a text. -/
def toUpper (s : List Char) : List Char :=
  s.flatMap upperChar

/-- The Unicode property Cased: characters that exist in more than one case. -/
def isCased (c : Char) : Bool :=
  if c.toNat < 128 then isAsciiLetter c else inRanges Tables.cased c.toNat

/-- The Unicode property Case_Ignorable. -/
def isCaseIgnorable (c : Char) : Bool :=
  inRanges Tables.caseIgnorable c.toNat

/-- Whether a cased character follows, past characters that case ignores. -/
def startsCased (s : List Char) : Bool :=
  match s.dropWhile isCaseIgnorable with
  | [] => false
  | c :: _ => isCased c

/-- The lowercase form of `s`, where `before` holds the characters in front of it, nearest first.
A capital sigma is final when a cased character comes before it and none after it. -/
def toLowerAfter (before : List Char) : List Char → List Char
  | [] => []
  | c :: rest =>
      let lowered :=
        if c = 'Σ' then (if startsCased before && !startsCased rest then ['ς'] else ['σ'])
        else lowerChar c
      lowered ++ toLowerAfter (c :: before) rest

/-- The lowercase form of a text. -/
def toLower (s : List Char) : List Char :=
  toLowerAfter [] s

end Stencil.Text
