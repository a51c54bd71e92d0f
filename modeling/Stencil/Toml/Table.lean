import Stencil.Toml.Basic

/-!
# Growing tables

The lines of a text add to a tree of tables.  A header writes a table down once; a table that only
lies on the path of a header can be written down later; and one that lies on the path of a dotted
key grows by dotted keys only.  Values, once set, are closed.
-/

namespace Stencil.Toml

/-- How a table came to be. -/
inductive TableKind where
  /-- By a header of its own, or as the table of the whole text. -/
  | written
  /-- On the path of a header. -/
  | implied
  /-- On the path of a dotted key. -/
  | dotted
  deriving DecidableEq

/-- An entry of a table that can still grow. -/
inductive Item where
  | value (value : Value)
  | table (kind : TableKind) (entries : List (String × Item))
  /-- The tables of an array, from the last to the first. -/
  | tables (reversed : List (List (String × Item)))

/-- The entries of a table that can still grow. -/
abbrev Entries :=
  List (String × Item)

namespace Entries

/-- Changes the table at the end of a path, and makes the tables on the path that are missing.  The
path of a dotted key does not enter tables that are written down. -/
def change? (made : TableKind) (f : TableKind → Entries → Option Entries) :
    List String → TableKind → Entries → Option Entries
  | [], kind, entries => f kind entries
  | key :: path, _, entries =>
      let changed :=
        match Fields.find? key entries with
        | none => (change? made f path made []).map (Item.table made)
        | some (.value _) => none
        | some (.table kind inner) =>
            if made = TableKind.dotted ∧ kind = TableKind.written then none
            else (change? made f path kind inner).map (Item.table kind)
        | some (.tables []) => none
        | some (.tables (last :: earlier)) =>
            (change? made f path .written last).map fun last => Item.tables (last :: earlier)
      changed.map fun item => Fields.insert key item entries

/-- Adds the value of a possibly dotted key to a table. -/
def add? (key : List String) (value : Value) (entries : Entries) : Option Entries := do
  let last ← key.getLast?
  let path := key.dropLast
  change? .dotted (fun kind entries =>
    if (!path.isEmpty && kind ≠ .dotted) || Fields.contains last entries then none
    else some (entries ++ [(last, .value value)])) path .written entries

/-- Changes the entry of the last part of a header's key in the table that its path leads to. -/
def changeAt? (key : List String) (f : String → Entries → Option Entries) (entries : Entries) :
    Option Entries := do
  let last ← key.getLast?
  change? .implied (fun _ entries => f last entries) key.dropLast .written entries

/-- Writes a table down.  It goes behind all others in its place. -/
def writeTable? : List String → Entries → Option Entries :=
  (changeAt? · fun key entries =>
    match Fields.find? key entries with
    | none => some (entries ++ [(key, .table .written [])])
    | some (.table .implied inner) =>
        some (entries.filter (fun entry => entry.1 ≠ key) ++ [(key, .table .written inner)])
    | some _ => none)

/-- Adds a table to an array of tables. -/
def writeElement? : List String → Entries → Option Entries :=
  (changeAt? · fun key entries =>
    match Fields.find? key entries with
    | none => some (entries ++ [(key, .tables [[]])])
    | some (.tables reversed) => some (Fields.insert key (.tables ([] :: reversed)) entries)
    | some _ => none)

/-- Adds the value of a key to the table that a header's key names. -/
def addUnder? (header key : List String) (value : Value) (entries : Entries) : Option Entries :=
  change? .implied (fun _ entries => add? key value entries) header .written entries

end Entries

mutual

/-- The value of an entry that grows no more. -/
def Item.close : Item → Value
  | .value value => value
  | .table _ entries => .table (closeEntries entries)
  | .tables reversed => .array (closeTables reversed).reverse

/-- The fields of a table that grows no more. -/
def closeEntries : List (String × Item) → List (String × Value)
  | [] => []
  | (key, item) :: rest => (key, item.close) :: closeEntries rest

/-- The tables of an array that grows no more. -/
def closeTables : List (List (String × Item)) → List Value
  | [] => []
  | entries :: rest => .table (closeEntries entries) :: closeTables rest

end

end Stencil.Toml
