import Stencil.Yaml.Token

/-!
# Tokens from indentation

A text is cut into tokens from the left.  Where a key can stand without a mark is known only at the
colon that follows it, so that a possible key is remembered with its place among the tokens: at the
colon the mark of the key, and the start of a mapping if the indentation grew, are put there.
-/

namespace Stencil.Yaml

/-- A possible key: its place in the text and among the tokens.  A required one has to be a key. -/
structure PossibleKey where
  place : Nat
  required : Bool
  index : Nat
  line : Nat
  column : Nat

/-- The state of cutting. -/
structure Layout where
  cursor : Cursor
  tokens : Array Token
  /-- The indentation of the innermost block, and those around it. -/
  indent : Int
  outer : List Int
  /-- Whether a key can start here. -/
  keyAllowed : Bool
  /-- The possible keys, one for every open bracket and one outside. -/
  keys : List (Option PossibleKey)

namespace Layout

/-- The start of a text. -/
def start (s : List Char) : Layout where
  cursor := .ofText s
  tokens := #[]
  indent := -1
  outer := []
  keyAllowed := true
  keys := [none]

/-- Whether brackets are open. -/
def inFlow (layout : Layout) : Bool :=
  1 < layout.keys.length

/-- The column of the next character. -/
def column (layout : Layout) : Int :=
  layout.cursor.column

/-- One more token and the place after it. -/
def add (layout : Layout) (token : Token) (cursor : Cursor) : Layout :=
  { layout with tokens := layout.tokens.push token, cursor := cursor }

/-- One more token of `count` characters. -/
def addMark (layout : Layout) (token : Token) (count : Nat) : Layout :=
  layout.add token (layout.cursor.skip count)

/-- Allows or forbids a key. -/
def allowKey (layout : Layout) (allowed : Bool) : Layout :=
  { layout with keyAllowed := allowed }

/-! ## Possible keys -/

/-- A possible key that is no longer on the same line, or too far back. -/
def isStale (cursor : Cursor) (key : PossibleKey) : Bool :=
  key.line < cursor.line || key.index + 1024 < cursor.index

/-- Gives up the keys that are stale, none of which may be required. -/
def dropStale? (layout : Layout) : Option Layout :=
  let stale (key : Option PossibleKey) : Bool := (key.map (isStale layout.cursor)).getD false
  if layout.keys.any fun key => stale key && (key.map PossibleKey.required).getD false then none
  else some { layout with keys := layout.keys.map fun key => if stale key then none else key }

/-- Gives up the key of the innermost brackets, which may not be required. -/
def dropKey? (layout : Layout) : Option Layout :=
  match layout.keys with
  | some key :: rest => if key.required then none else some { layout with keys := none :: rest }
  | _ => some layout

/-- Remembers that a key may start here. -/
def saveKey? (layout : Layout) : Option Layout :=
  if layout.keyAllowed then do
    let layout ← layout.dropKey?
    some { layout with
      keys := some
        { place := layout.tokens.size
          required := !layout.inFlow && layout.indent == layout.column
          index := layout.cursor.index
          line := layout.cursor.line
          column := layout.cursor.column } :: layout.keys.drop 1 }
  else some layout

/-! ## Blocks -/

/-- Opens a block if the indentation grows to `column`, with its token at a place. -/
def openBlock (layout : Layout) (column : Int) (place : Nat) (token : Token) : Layout :=
  if !layout.inFlow && layout.indent < column then
    { layout with
      outer := layout.indent :: layout.outer
      indent := column
      tokens := layout.tokens.insertIdxIfInBounds place token }
  else layout

/-- Opens a block here. -/
def openBlockHere (layout : Layout) (token : Token) : Layout :=
  layout.openBlock layout.column layout.tokens.size token

/-- The indentations that are left when blocks further in than `column` are closed, and the count of
closed blocks. -/
def closedBlocks (column : Int) : Int → List Int → Int × List Int × Nat
  | indent, [] => (indent, [], 0)
  | indent, next :: outer =>
      if column < indent then
        let (left, outer, count) := closedBlocks column next outer
        (left, outer, count + 1)
      else (indent, next :: outer, 0)

/-- Closes the blocks further in than `column`. -/
def closeBlocks (layout : Layout) (column : Int) : Layout :=
  if layout.inFlow then layout
  else
    let (indent, outer, count) := closedBlocks column layout.indent layout.outer
    { layout with
      indent := indent
      outer := outer
      tokens := layout.tokens ++ Array.replicate count Token.blockEnd }

/-! ## Tokens -/

/-- A mark between documents, or a directive: all blocks end before it. -/
def leaveBlocks? (layout : Layout) : Option Layout := do
  let layout ← (layout.closeBlocks (-1)).dropKey?
  some (layout.allowKey false)

/-- An opening bracket. -/
def openBracket? (layout : Layout) (token : Token) : Option Layout := do
  let layout ← layout.saveKey?
  some (({ layout with keys := none :: layout.keys }.allowKey true).addMark token 1)

/-- A closing bracket. -/
def closeBracket? (layout : Layout) (token : Token) : Option Layout := do
  let layout ← layout.dropKey?
  let keys := if layout.inFlow then layout.keys.drop 1 else layout.keys
  some (({ layout with keys := keys }.allowKey false).addMark token 1)

/-- The comma between elements in brackets. -/
def flowEntry? (layout : Layout) : Option Layout := do
  let layout ← layout.dropKey?
  some ((layout.allowKey true).addMark .flowEntry 1)

/-- The dash in front of an element of a block. -/
def blockEntry? (layout : Layout) : Option Layout :=
  if !layout.inFlow && !layout.keyAllowed then none
  else do
    let layout ← (layout.openBlockHere .blockSequence).dropKey?
    some ((layout.allowKey true).addMark .blockEntry 1)

/-- The question mark in front of a key. -/
def key? (layout : Layout) : Option Layout :=
  if !layout.inFlow && !layout.keyAllowed then none
  else do
    let layout ← (layout.openBlockHere .blockMapping).dropKey?
    some ((layout.allowKey !layout.inFlow).addMark .key 1)

/-- The colon in front of a value. -/
def value? (layout : Layout) : Option Layout :=
  match layout.keys with
  | some key :: rest =>
      let marked :=
        { layout with
          tokens := layout.tokens.insertIdxIfInBounds key.place Token.key
          keys := none :: rest }
      some (((marked.openBlock key.column key.place .blockMapping).allowKey false).addMark .value 1)
  | _ =>
      if !layout.inFlow && !layout.keyAllowed then none
      else
        some (((layout.openBlockHere .blockMapping).allowKey !layout.inFlow).addMark .value 1)

/-- A token that can start a key. -/
def item? (layout : Layout) (read : Cursor → ScannedToken) : Option Layout := do
  let layout ← layout.saveKey?
  let (token, cursor) ← read layout.cursor
  some ((layout.allowKey false).add token cursor)

/-- A scalar that can be a key. -/
def scalar? (layout : Layout) (isPlain : Bool) (read : Layout → Option ScannedScalar) :
    Option Layout := do
  let layout ← layout.saveKey?
  let scalar ← read layout
  some ((layout.allowKey scalar.endsLine).add (.scalar isPlain scalar.text) scalar.cursor)

/-- A scalar of whole lines. -/
def blockScalar? (layout : Layout) (literal : Bool) : Option Layout := do
  let layout ← layout.dropKey?
  let scalar ← readBlock literal layout.indent (layout.cursor.skip 1)
  some ((layout.allowKey true).add (.scalar false scalar.text) scalar.cursor)

/-- A plain scalar. -/
def plain? (layout : Layout) : Option Layout :=
  layout.scalar? true fun layout =>
    readPlain layout.inFlow (layout.indent + 1) (layout.cursor.rest.length + 1) []
      ⟨[], [], [], false⟩ layout.cursor

/-- A quoted scalar. -/
def quoted? (layout : Layout) (double : Bool) : Option Layout :=
  layout.scalar? false fun layout =>
    readQuoted double (layout.cursor.rest.length + 1) [] (layout.cursor.skip 1)

/-- Whether a plain scalar can start with a character. -/
def startsPlain (layout : Layout) (c : Char) : Bool :=
  !("-?:,[]\x7b\x7d#&*!|>\x27\x22%@\x60".toList.contains c || isBlank c || isBreak c) ||
    (c = '-' && !(layout.cursor.rest[1]?.map isBlank).getD false) ||
    (!layout.inFlow && (c = '?' || c = ':') && !layout.cursor.blankAt 1)

/-- The token that starts with a character. -/
def token? (layout : Layout) (c : Char) : Option Layout :=
  let cursor := layout.cursor
  let blankNext := cursor.blankAt 1
  if cursor.column = 0 && c = '%' then do
    let layout ← layout.leaveBlocks?
    let (token, cursor) ← readDirective? cursor
    some (layout.add token cursor)
  else if cursor.atDocumentMark then do
    let layout ← layout.leaveBlocks?
    some (layout.addMark (if c = '-' then .documentStart else .documentEnd) 3)
  else if c = '[' then layout.openBracket? .flowSequence
  else if c = '\x7b' then layout.openBracket? .flowMapping
  else if c = ']' then layout.closeBracket? .flowSequenceEnd
  else if c = '\x7d' then layout.closeBracket? .flowMappingEnd
  else if c = ',' then layout.flowEntry?
  else if c = '-' && blankNext then layout.blockEntry?
  else if c = '?' && (layout.inFlow || blankNext) then layout.key?
  else if c = ':' && (layout.inFlow || blankNext) then layout.value?
  else if c = '*' then
    layout.item? fun cursor => (readAnchorName? (cursor.skip 1)).map fun (n, k) => (.alias n, k)
  else if c = '&' then
    layout.item? fun cursor => (readAnchorName? (cursor.skip 1)).map fun (n, k) => (.anchor n, k)
  else if c = '!' then layout.item? (readTag? layout.inFlow)
  else if c = '|' && !layout.inFlow then layout.blockScalar? true
  else if c = '>' && !layout.inFlow then layout.blockScalar? false
  else if c = '\x27' then layout.quoted? false
  else if c = '\x22' then layout.quoted? true
  else if layout.startsPlain c then layout.plain?
  else none

/-! ## The whole text -/

/-- The place of the next token: blanks, comments and line breaks are skipped.  Tabs are refused
where a key could start.  Every step consumes a line, so the length of the text bounds the steps. -/
def skipSpace (layout : Layout) : Nat → Layout
  | 0 => layout
  | steps + 1 =>
      let cursor := layout.cursor.skipWhile fun c =>
        c = ' ' || ((layout.inFlow || !layout.keyAllowed) && c = '\t')
      let cursor := if cursor.next (· = '#') then cursor.skipWhile fun c => !isBreak c else cursor
      if cursor.next isBreak then
        skipSpace { layout with
          cursor := cursor.lineBreak.2
          keyAllowed := layout.keyAllowed || !layout.inFlow } steps
      else { layout with cursor := cursor }

/-- Cuts the next token, or ends all blocks at the end of the text. -/
def step? (layout : Layout) : Option Layout := do
  let layout ← (layout.skipSpace (layout.cursor.rest.length + 1)).dropStale?
  let layout := layout.closeBlocks layout.column
  match layout.cursor.head? with
  | none => (layout.closeBlocks (-1)).dropKey?
  | some c => layout.token? c

/-- Cuts all tokens.  Every step consumes a character, so the length of the text bounds them. -/
def run? (layout : Layout) : Nat → Option Layout
  | 0 => some layout
  | steps + 1 => do
      let next ← layout.step?
      if next.cursor.rest.isEmpty && layout.cursor.rest.isEmpty then some next else next.run? steps

end Layout

/-- The text without a mark of its byte order. -/
def withoutByteOrderMark : List Char → List Char
  | '\ufeff' :: rest => rest
  | s => s

/-- The tokens of a text. -/
def tokens? (s : List Char) : Option (List Token) := do
  let s := withoutByteOrderMark s
  if !s.all isAllowed then none
  let layout ← (Layout.start s).run? (s.length + 2)
  some layout.tokens.toList

end Stencil.Yaml
