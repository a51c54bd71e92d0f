import Stencil.Toml.Number
import Stencil.Toml.Table
import Stencil.Toml.Text

/-!
# Reading TOML texts

A text is a sequence of lines: headers, which name the table that the lines after them add to, and
keys with their values.
-/

namespace Stencil.Toml

namespace Reader

/-! ## Values -/

/-- The elements of an array up to its closing bracket, each of which `value` reads. -/
def items (value : Reader Value) : Nat → List Value → Reader (List Value)
  | 0, _ => failure
  | steps + 1, acc => do
      space
      if (← accepts (char ']')) then return acc.reverse
      let item ← value
      space
      if (← accepts (char ',')) then items value steps (item :: acc)
      else
        char ']'
        return (item :: acc).reverse

/-- A key and its value, which `value` reads. -/
def pair (value : Reader Value) : Reader (List String × Value) := do
  let key ← key
  char '='
  blanks
  return (key, ← value)

/-- The fields of a table in braces up to the closing one, behind those in `acc`. -/
def fields (value : Reader Value) : Nat → Entries → Reader Entries
  | 0, _ => failure
  | steps + 1, acc => do
      let (key, value') ← pair value
      blanks
      match acc.add? key value' with
      | none => failure
      | some acc =>
          if (← accepts (char ',')) then fields value steps acc
          else
            char '\x7d'
            return acc

/-- The rest of a table behind its opening brace. -/
def table (value : Reader Value) : Reader Value := do
  blanks
  if (← accepts (char '\x7d')) then return .table []
  return .table (closeEntries (← fields value (← enough) []))

/-- A value that holds no others. -/
def scalar : Reader Value := do
  match (← peek) with
  | some '\x22' => return .string (← quoted '\x22')
  | some '\x27' => return .string (← quoted '\x27')
  | some 't' => do word ['t', 'r', 'u', 'e']; return .bool true
  | some 'f' => do word ['f', 'a', 'l', 's', 'e']; return .bool false
  | _ => (.moment <$> moment) <|> number

/-- A value in which arrays and tables nest up to a count of levels. -/
def value : Nat → Reader Value
  | 0 => scalar
  | levels + 1 => do
      if (← accepts (char '[')) then
        return .array (← items (value levels) (← enough) [])
      else if (← accepts (char '\x7b')) then table (value levels)
      else scalar

/-! ## Lines -/

/-- The tables of a text so far, and the key of the last header. -/
structure Document where
  entries : Entries
  header : List String

/-- A header with its brackets, whose key goes through `write?`. -/
def header (opening closing : List Char) (write? : List String → Entries → Option Entries)
    (document : Document) : Reader Document := do
  word opening
  let key ← key
  word closing
  lineEnd
  match write? key document.entries with
  | none => failure
  | some entries => return ⟨entries, key⟩

/-- A key and its value on a line. -/
def keyLine (document : Document) : Reader Document := do
  let (key, value) ← pair (value (depthLimit - 1))
  lineEnd
  match document.entries.addUnder? document.header key value with
  | none => failure
  | some entries => return { document with entries := entries }

/-- A line. -/
def line (document : Document) : Reader Document := do
  match (← get) with
  | '[' :: '[' :: _ => header ['[', '['] [']', ']'] Entries.writeElement? document
  | '[' :: _ => header ['['] [']'] Entries.writeTable? document
  | '#' :: _ | '\n' :: _ | '\r' :: _ => do lineEnd; return document
  | _ => keyLine document

/-- The lines of a text. -/
def lines : Nat → Document → Reader Document
  | 0, _ => failure
  | steps + 1, document => do
      blanks
      if (← atEnd) then return document
      lines steps (← line document)

end Reader

/-- The table of a text. -/
def read? (s : String) : Option (List (String × Value)) := do
  let chars := match s.toList with
    | '\ufeff' :: rest => rest
    | all => all
  let (document, _) ← (Reader.lines (chars.length + 1) ⟨[], []⟩).run chars
  some (closeEntries document.entries)

end Stencil.Toml
