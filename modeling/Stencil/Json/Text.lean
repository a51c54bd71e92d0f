import Stencil.Json.Basic

/-!
# JSON texts

The text of a JSON value: in one line, or with every element and field on a line of its own.
-/

namespace Stencil.Json

/-- Two hexadecimal digits. -/
def hexByte (n : Nat) : List Char :=
  [Number.digitChar (n / 16), Number.digitChar (n % 16)]

/-- The written form of a character inside a string: quotes, backslashes and controls are
escaped. -/
def stringChar (c : Char) : List Char :=
  match c with
  | '\x22' => ['\\', '\x22']
  | '\\' => ['\\', '\\']
  | '\x08' => ['\\', 'b']
  | '\t' => ['\\', 't']
  | '\n' => ['\\', 'n']
  | '\x0c' => ['\\', 'f']
  | '\r' => ['\\', 'r']
  | c => if c.toNat < 0x20 then ['\\', 'u', '0', '0'] ++ hexByte c.toNat else [c]

/-- The written form of a string. -/
def stringText (s : String) : List Char :=
  '\x22' :: s.toList.flatMap stringChar ++ ['\x22']

/-- The written form of a number: whole numbers below `2 ^ 53` are integers; numbers that are not
finite have no form of their own and are written as `null`. -/
def numberText (n : Binary64) : List Char :=
  if !n.isFinite then "null".toList
  else if n.isInteger && n.toInt.natAbs < Nat.pow 2 53 then Number.intText n.toInt
  else NumberLayout.json.writeNumber n

/-- Joins written elements between brackets: in one line without an indent, and otherwise one to a
line at one level below `level`. -/
def bracket (indent : List Char) (level : Nat) (open' close : Char) (parts : List (List Char)) :
    List Char :=
  if parts.isEmpty then [open', close]
  else if indent.isEmpty then open' :: [','].intercalate parts ++ [close]
  else
    let line (level : Nat) := '\n' :: (List.replicate level indent).flatten
    open' :: line (level + 1) ++ (',' :: line (level + 1)).intercalate parts ++ line level ++
      [close]

mutual

/-- The text of a value at a level of nesting. -/
def write (indent : List Char) (level : Nat) : Json → List Char
  | null => "null".toList
  | bool true => "true".toList
  | bool false => "false".toList
  | number n => numberText n
  | string s => stringText s
  | array items => bracket indent level '[' ']' (writeItems indent (level + 1) items)
  | object fields => bracket indent level '\x7b' '\x7d' (writeFields indent (level + 1) fields)

/-- The texts of the elements of an array. -/
def writeItems (indent : List Char) (level : Nat) : List Json → List (List Char)
  | [] => []
  | item :: rest => write indent level item :: writeItems indent level rest

/-- The texts of the fields of an object. -/
def writeFields (indent : List Char) (level : Nat) : List (String × Json) → List (List Char)
  | [] => []
  | (key, value) :: rest =>
      (stringText key ++ (if indent.isEmpty then [':'] else [':', ' ']) ++
        write indent level value) :: writeFields indent level rest

end

/-- The text of a value in one line. -/
def compact (json : Json) : String :=
  String.ofList (write [] 0 json)

/-- The text of a value with an indent for every level. -/
def pretty (indent : String) (json : Json) : String :=
  String.ofList (write indent.toList 0 json)

end Stencil.Json
