import Stencil.Eval.Argument
import Stencil.Eval.Fault
import Stencil.Text.Case
import Stencil.Text.Search

/-!
# Methods of strings

Positions count characters.  A position argument may be any number: it loses its fraction and is
moved into the text, and where a method says so a negative one counts from the end.
-/

namespace Stencil.StringMethod

open Text

/-- The most characters that a method may build. -/
def lengthLimit : Nat :=
  Nat.pow 2 29 - 24

/-- A position that was searched for. -/
def found : Option Nat → Value
  | some i => .nat i
  | none => .int (-1)

/-- The characters from `start` up to `stop`. -/
def between (s : List Char) (start stop : Nat) : List Char :=
  (s.take stop).drop start

/-! ## Searching -/

/-- First position of the first argument at or after the second one. -/
def indexOf? (s : List Char) (args : Arguments) : Option Nat :=
  findFrom (args.chars 0) s ((args.whole 1 (.finite 0)).clamp s.length)

/-- Last position of the first argument at or before the second one. -/
def lastIndexOf? (s : List Char) (args : Arguments) : Option Nat :=
  findLast (args.chars 0) ((args.whole 1 (.infinite false)).clamp s.length) s

/-- Whether the first argument stands at the second one. -/
def startsWith (s : List Char) (args : Arguments) : Bool :=
  (args.chars 0).isPrefixOf (s.drop ((args.whole 1 (.finite 0)).clamp s.length))

/-- Whether the first argument ends at the second one. -/
def endsWith (s : List Char) (args : Arguments) : Bool :=
  (args.chars 0).isSuffixOf (s.take ((args.whole 1 (.infinite false)).clamp s.length))

/-! ## Parts -/

/-- The characters between two positions in either order. -/
def substring (s : List Char) (args : Arguments) : List Char :=
  let a := (args.whole 0 (.finite 0)).clamp s.length
  let b := (args.whole 1 (.infinite false)).clamp s.length
  between s (min a b) (max a b)

/-- The characters between two positions that may count from the end. -/
def slice (s : List Char) (args : Arguments) : List Char :=
  between s ((args.whole 0 (.finite 0)).relative s.length)
    ((args.whole 1 (.infinite false)).relative s.length)

/-- A count of characters from a position that may count from the end. -/
def substr (s : List Char) (args : Arguments) : List Char :=
  let start := (args.whole 0 (.finite 0)).relative s.length
  between s start (start + (args.whole 1 (.infinite false)).clamp (s.length - start))

/-- The character at a position. -/
def charAt? (s : List Char) (args : Arguments) : Option Char :=
  ((args.whole 0 (.finite 0)).position? s.length).bind (s[·]?)

/-- The character at a position that may count from the end. -/
def at? (s : List Char) (args : Arguments) : Option Char :=
  (((args.whole 0 (.finite 0)).fromEnd s.length).position? s.length).bind (s[·]?)

/-- The parts between the separators, at most as many as the second argument says.  Without a
separator the whole text is the only part. -/
def split (s : List Char) (args : Arguments) : List (List Char) :=
  let parts := match args.value 0 with
    | .undefined => [s]
    | separator => splitOn separator.text.toList s
  parts.take ((args.whole 1 (.infinite false)).clamp parts.length)

/-! ## Building -/

/-- A text over and over. -/
def copies (s : List Char) : Nat → List Char
  | 0 => []
  | n + 1 => s ++ copies s n

/-- The text as often as the argument says. -/
def repeated (s : List Char) (args : Arguments) : Outcome (List Char) :=
  match args.whole 0 (.finite 0) with
  | .infinite negative => .error (.badRepeatCount (.infinity negative))
  | .finite n =>
      if n < 0 then .error (.badRepeatCount (.ofInt n))
      else if s.isEmpty then .ok []
      else if lengthLimit < n.toNat * s.length then .error .stringTooLong
      else .ok (copies s n.toNat)

/-- The first `count` characters of a filler that is repeated without end. -/
def filling (filler : List Char) (count : Nat) : List Char :=
  (copies filler (count / filler.length + 1)).take count

/-- What has to be added to a text to make it as long as the first argument says. -/
def padding (s : List Char) (args : Arguments) : Outcome (List Char) :=
  let filler := (args.textOr 1 " ").toList
  match args.whole 0 (.finite 0) with
  | .infinite negative =>
      if negative || filler.isEmpty then .ok [] else .error .stringTooLong
  | .finite target =>
      if target ≤ s.length || filler.isEmpty then .ok []
      else if lengthLimit < target then .error .stringTooLong
      else .ok (filling filler (target.toNat - s.length))

/-- The order of two texts, by code points. -/
def order (a b : String) : Ordering :=
  if a < b then .lt else if a = b then .eq else .gt

/-- An order as a number. -/
def orderNumber : Ordering → Int
  | .lt => -1
  | .eq => 0
  | .gt => 1

/-! ## By name -/

/-- The method of a name, if strings have it. -/
def call? (string : String) (args : Arguments) (name : String) : Option (Outcome Value) :=
  let s := string.toList
  match name with
  | "indexOf" => some (.ok (found (indexOf? s args)))
  | "lastIndexOf" => some (.ok (found (lastIndexOf? s args)))
  | "includes" => some (.ok (.bool (indexOf? s args).isSome))
  | "startsWith" => some (.ok (.bool (startsWith s args)))
  | "endsWith" => some (.ok (.bool (endsWith s args)))
  | "toUpperCase" | "toLocaleUpperCase" => some (.ok (.chars (toUpper s)))
  | "toLowerCase" | "toLocaleLowerCase" => some (.ok (.chars (toLower s)))
  | "trim" => some (.ok (.chars (trim s)))
  | "trimStart" | "trimLeft" => some (.ok (.chars (trimStart s)))
  | "trimEnd" | "trimRight" => some (.ok (.chars (trimEnd s)))
  | "substring" => some (.ok (.chars (substring s args)))
  | "slice" => some (.ok (.chars (slice s args)))
  | "substr" => some (.ok (.chars (substr s args)))
  | "charAt" => some (.ok (((charAt? s args).map .char).getD (.string "")))
  | "charCodeAt" =>
      some (.ok (((charAt? s args).map fun c => .nat c.toNat).getD (.number .nan)))
  | "codePointAt" =>
      some (.ok (((charAt? s args).map fun c => .nat c.toNat).getD .undefined))
  | "at" => some (.ok (((at? s args).map .char).getD .undefined))
  | "split" => some (.ok (.array ((split s args).map .chars)))
  | "replace" => some (.ok (.chars (replaceFirst (args.chars 0) (args.chars 1) s)))
  | "replaceAll" => some (.ok (.chars (replaceAll (args.chars 0) (args.chars 1) s)))
  | "repeat" => some ((repeated s args).map .chars)
  | "padStart" => some ((padding s args).map fun pad => .chars (pad ++ s))
  | "padEnd" => some ((padding s args).map fun pad => .chars (s ++ pad))
  | "concat" => some (.ok (.string (string ++ String.join (args.map Value.text))))
  | "localeCompare" => some (.ok (.int (orderNumber (order string (args.text 0)))))
  | "toString" | "valueOf" => some (.ok (.string string))
  | _ => none

end Stencil.StringMethod
