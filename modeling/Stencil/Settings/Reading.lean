import Stencil.Settings.Basic

/-!
# Reading settings

Settings are read from a data file in one of three formats.  The files that they name are seen from
the folder of that file.
-/

/-! ## Settings in JSON

Settings are an object with a field for each of them, or an array of them in their order.  The kind
of a value is checked where it stands, so that the first fault of a text is the one that is told.
-/

namespace Stencil.Settings

open Json Text

/-! ### Values of another kind -/

/-- A number as messages show it: an integer of 64 bits, or else a fraction. -/
def numberFound (digits : List Char) (n : Binary64) : String :=
  let size := ofDigits 10 (digits.filter isDigit)
  let isNegative := digits.head? = some '-'
  let isInteger := digits.all (fun c => isDigit c || c = '-') &&
    (if isNegative then 0 < size && size ≤ Nat.pow 2 63 else size < Nat.pow 2 64)
  if isInteger then "integer `" ++ String.ofList digits ++ "`"
  else "floating point `" ++ String.ofList (NumberLayout.json.writeNumber n) ++ "`"

/-- The value that comes next as messages show it, and the cursor after it.  Arrays and objects are
not entered. -/
def readFound (cursor : Cursor) : Except ReadError (String × Cursor) :=
  match cursor.rest with
  | '[' :: _ => .ok ("sequence", cursor)
  | '\x7b' :: _ => .ok ("map", cursor)
  | _ => do
      let (value, after) ← readScalar Numeral.value? cursor
      let text := cursor.rest.take (cursor.rest.length - after.rest.length)
      let found := match value with
        | .bool true => "boolean `true`"
        | .bool false => "boolean `false`"
        | .number n => numberFound text n
        | .string s => "string " ++ quoted s
        | _ => "null"
      return (found, after)

/-- Fails since the value that comes next is not what was wanted. -/
def mismatch (wanted : String) (cursor : Cursor) : Except ReadError α := do
  let (found, cursor) ← readFound cursor
  cursor.fail (.mismatch found wanted)

/-! ### Fields -/

/-- A path, or null for none. -/
def readPath (cursor : Cursor) : Except ReadError (Option FilePath × Cursor) :=
  let cursor := cursor.skipSpace
  match cursor.rest with
  | 'n' :: _ => do return (none, ← readWord (cursor.skip 1) ['u', 'l', 'l'])
  | '\x22' :: _ => do
      let (s, cursor) ← readStringBody (cursor.skip 1)
      return (some ⟨s⟩, cursor)
  | _ => mismatch "path string" cursor

/-- A mapping, whose values lie two levels below the whole. -/
def readMapping (cursor : Cursor) : Except ReadError (List (String × Json) × Cursor) :=
  let cursor := cursor.skipSpace
  match cursor.rest with
  | '\x7b' :: _ => readObject (readValue Numeral.value? (nestingLimit - 2)) (cursor.skip 1)
  | _ => mismatch "a map" cursor

/-- The value of a field. -/
def readField (field : Field) (settings : Settings) (cursor : Cursor) :
    Except ReadError (Settings × Cursor) :=
  match field with
  | .context => do
      let (path, cursor) ← readPath cursor
      return ({ settings with context := path }, cursor)
  | .globals => do
      let (fields, cursor) ← readMapping cursor
      return ({ settings with globals := fields }, cursor)
  | .host => do
      let (fields, cursor) ← readMapping cursor
      return ({ settings with host := fields }, cursor)
  | .output => do
      let (path, cursor) ← readPath cursor
      return ({ settings with output := path }, cursor)

/-! ### The whole -/

/-- The fields of an object up to its closing brace; those in `seen` were read.  Fields of other
names are passed over. -/
def readMembers : Nat → Bool → List Field → Settings → Cursor →
    Except ReadError (Settings × Cursor)
  | 0, _, _, _, cursor => cursor.fail .endInObject
  | steps + 1, first, seen, settings, cursor => do
      match ← toNextField first cursor with
      | (none, cursor) => return (settings, cursor.skip 1)
      | (some name, cursor) =>
          match Field.ofName? name with
          | none =>
              let (_, cursor) ← readValue Numeral.value? (nestingLimit - 1) (← readColon cursor)
              readMembers steps false seen settings cursor
          | some field =>
              if seen.contains field then cursor.skipSpace.fail (.repeatedField name)
              else
                let (settings, cursor) ← readField field settings (← readColon cursor)
                readMembers steps false (field :: seen) settings cursor

/-- The closing bracket of an array that has no more elements. -/
def readArrayEnd (cursor : Cursor) : Except ReadError Cursor :=
  let cursor := cursor.skipSpace
  match cursor.rest with
  | [] => cursor.failNext .endInList
  | ']' :: _ => .ok (cursor.skip 1)
  | ',' :: _ =>
      let cursor := (cursor.skip 1).skipSpace
      cursor.failNext (if cursor.rest.head? = some ']' then .trailingComma else .trailingText)
  | _ => cursor.failNext .trailingText

/-- The values of fields in their order up to the closing bracket.  The last ones may be missing. -/
def readElements (first : Bool) (settings : Settings) (cursor : Cursor) :
    List Field → Except ReadError (Settings × Cursor)
  | [] => do return (settings, ← readArrayEnd cursor)
  | field :: fields => do
      let (isItem, cursor) ← toNextItem first cursor
      if isItem then
        let (settings, cursor) ← readField field settings cursor
        readElements false settings cursor fields
      else return (settings, cursor.skip 1)

/-- Settings as an object or an array. -/
def readJsonSettings (cursor : Cursor) : Except ReadError (Settings × Cursor) :=
  let cursor := cursor.skipSpace
  match cursor.rest with
  | '[' :: _ => readElements true empty (cursor.skip 1) Field.all
  | '\x7b' :: _ => readMembers (cursor.rest.length + 1) true [] empty (cursor.skip 1)
  | _ => mismatch "struct RenderConfig" cursor

/-- The settings of a JSON text. -/
def ofJsonText (s : String) : Except ReadError Settings :=
  readWhole readJsonSettings s

end Stencil.Settings

/-! ## Settings in TOML

Settings are a table with a key for each of them.
-/

namespace Stencil.Settings

open Toml

/-- A path: a string. -/
def tomlPath? : Toml.Value → Option FilePath
  | .string s => some ⟨s⟩
  | _ => none

/-- A mapping.  A moment counts as the mapping of its text. -/
def tomlMapping? : Toml.Value → Option (List (String × Json))
  | .table fields => some (Toml.Value.toJsonFields fields)
  | .moment m => some m.jsonFields
  | _ => none

/-- The settings with the value of a field. -/
def setToml? (field : Field) (value : Toml.Value) (settings : Settings) : Option Settings :=
  match field with
  | .context => (tomlPath? value).map fun path => { settings with context := some path }
  | .globals => (tomlMapping? value).map fun fields => { settings with globals := fields }
  | .host => (tomlMapping? value).map fun fields => { settings with host := fields }
  | .output => (tomlPath? value).map fun path => { settings with output := some path }

/-- The settings of the fields of a table.  Keys of other names are passed over. -/
def ofToml? (settings : Settings) : List (String × Toml.Value) → Option Settings
  | [] => some settings
  | (key, value) :: rest => do
      match Field.ofName? key with
      | none => ofToml? settings rest
      | some field => ofToml? (← setToml? field value settings) rest

/-- The settings of a TOML text. -/
def ofTomlText? (s : String) : Option Settings := do
  ofToml? empty (← read? s)

end Stencil.Settings

/-! ## Settings in YAML

Settings are a mapping with a key for each of them, a sequence of them in their order, or nothing at
all.
-/

namespace Stencil.Settings

open Yaml

/-- Whether a node is a plain scalar without text. -/
def isBlankNode : Yaml.Node → Bool
  | .scalar _ isPlain text => isPlain && text.isEmpty
  | _ => false

/-- A path: the text of a scalar.  A plain one that spells null, or nothing, is no path. -/
def nodePath? : Yaml.Node → Option (Option FilePath)
  | .scalar tag isPlain text =>
      let path : Option FilePath := some ⟨String.ofList text⟩
      if !isPlain then some path
      else
        match tag.map TagKind.ofTag with
        | none => some (if text.isEmpty || isNull text then none else path)
        | some .null => if isNull text then some none else none
        | some _ => some path
  | _ => none

/-- A mapping, whose values lie two levels below the whole. -/
def nodeMapping? (node : Yaml.Node) : Option (List (String × Json)) :=
  match node with
  | .mapping _ pairs => (Yaml.Node.toJsonFields? (nestingLimit - 2) pairs).map Fields.ofPairs
  | _ => if isBlankNode node then some [] else none

/-- The settings with the value of a field. -/
def setNode? (field : Field) (node : Yaml.Node) (settings : Settings) : Option Settings :=
  match field with
  | .context => (nodePath? node).map fun path => { settings with context := path }
  | .globals => (nodeMapping? node).map fun fields => { settings with globals := fields }
  | .host => (nodeMapping? node).map fun fields => { settings with host := fields }
  | .output => (nodePath? node).map fun path => { settings with output := path }

/-- The settings with the values of pairs; the fields in `seen` have theirs.  Keys of other names
are passed over. -/
def setPairs? (seen : List Field) (settings : Settings) :
    List (Yaml.Node × Yaml.Node) → Option Settings
  | [] => some settings
  | (key, value) :: rest => do
      match Field.ofName? (← key.keyText?) with
      | none => setPairs? seen settings rest
      | some field =>
          if seen.contains field then none
          else setPairs? (field :: seen) (← setNode? field value settings) rest

/-- The settings with the values of fields in their order. -/
def setItems? (settings : Settings) : List Field → List Yaml.Node → Option Settings
  | _, [] => some settings
  | [], _ => none
  | field :: fields, item :: items => do setItems? (← setNode? field item settings) fields items

/-- The settings of the tree of a text. -/
def ofNode? (node : Yaml.Node) : Option Settings :=
  match node with
  | .mapping _ pairs => setPairs? [] empty pairs
  | .sequence _ items => setItems? empty Field.all items
  | _ => if isBlankNode node then some empty else none

/-- The settings of a YAML text. -/
def ofYamlText? (s : String) : Option Settings :=
  match read? s.toList with
  | none => none
  | some none => some empty
  | some (some node) => ofNode? node

end Stencil.Settings

/-! ## Settings in files -/

namespace Stencil

/-- The settings of a text in a format. -/
def Settings.ofText (format : DataFormat) (s : String) : Except Malformed Settings :=
  match format with
  | .json => (Settings.ofJsonText s).mapError (.json · s)
  | .yaml => (Settings.ofYamlText? s).elim (.error .yaml) .ok
  | .toml => (Settings.ofTomlText? s).elim (.error .toml) .ok

/-- The settings of a file. -/
def FileAccess.readSettings {m : Type → Type} [Monad m] (files : FileAccess m) (path : FilePath) :
    ExceptT DataFault m Settings := do
  let settings ← files.readData path Settings.ofText
  return settings.under (path.parent?.getD ⟨""⟩)

end Stencil
