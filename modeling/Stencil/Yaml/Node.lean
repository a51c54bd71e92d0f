import Stencil.Yaml.Layout

/-!
# The tree of a YAML text

A text holds one document, and a document is a tree of scalars, sequences and mappings.  An alias
stands for the node that was last given its anchor; it cannot stand inside that node.
-/

namespace Stencil.Yaml

/-- A node, with its tag if it has one. -/
inductive Node where
  | scalar (tag : Option (List Char)) (isPlain : Bool) (text : List Char)
  | sequence (tag : Option (List Char)) (items : List Node)
  | mapping (tag : Option (List Char)) (pairs : List (Node × Node))

namespace Node

/-- The node of nothing at all. -/
def nothing : Node :=
  .scalar none true []

end Node

/-- What an anchor stands for, and how many aliases were followed to make it up. -/
structure Anchored where
  node : Node
  jumps : Nat

/-- The state of building a tree. -/
structure Composition where
  tokens : List Token
  /-- The anchors so far; the node of one that is still being built is missing. -/
  anchors : List (List Char × Option Anchored)
  /-- The declared handles of tags. -/
  handles : List (List Char × List Char)
  /-- How many nodes and brackets there are in the text. -/
  events : Nat
  /-- How many aliases are followed when the tree is walked. -/
  jumps : Nat

/-- Builds a part of a tree. -/
abbrev Composer (α : Type) :=
  StateT Composition Option α

namespace Composer

/-- The next token. -/
def peek : Composer (Option Token) := do
  return (← get).tokens.head?

/-- Takes the next token. -/
def skip : Composer Unit :=
  modify fun c => { c with tokens := c.tokens.drop 1 }

/-- Takes the next token if it is the given one. -/
def skipIf (token : Token) : Composer Bool := do
  if (← peek) = some token then
    skip
    return true
  else return false

/-- Takes the given token. -/
def expect (token : Token) : Composer Unit := do
  if !(← skipIf token) then failure

/-- Whether one of the given tokens comes next.  The end of the text is not among them. -/
def nextIn (tokens : List Token) : Composer Bool := do
  return ((← peek).map tokens.contains).getD false

/-- Counts places of the text. -/
def count (events : Nat) : Composer Unit :=
  modify fun c => { c with events := c.events + events }

/-! ## Tags and anchors -/

/-- The tag of a handle and a suffix. -/
def resolveTag (handle suffix : List Char) : Composer (List Char) := do
  if handle.isEmpty then return suffix
  match (← get).handles.lookup handle with
  | some tagPrefix => return tagPrefix ++ suffix
  | none => failure

/-- An anchor, if one comes next. -/
def anchor? : Composer (Option (List Char)) := do
  match (← peek) with
  | some (.anchor name) =>
      skip
      return some name
  | _ => return none

/-- A tag, if one comes next. -/
def tag? : Composer (Option (List Char)) := do
  match (← peek) with
  | some (.tag handle suffix) =>
      skip
      return some (← resolveTag handle suffix)
  | _ => return none

/-- The anchor and the tag in front of a node, in either order. -/
def properties : Composer (Option (List Char) × Option (List Char)) := do
  match (← anchor?) with
  | some name => return (some name, ← tag?)
  | none =>
      let tag ← tag?
      return (← anchor?, tag)

/-- Gives an anchor its meaning. -/
def setAnchor (name : List Char) (meaning : Option Anchored) : Composer Unit :=
  modify fun c => { c with anchors := (name, meaning) :: c.anchors }

/-- The node of an alias. -/
def follow (name : List Char) : Composer Node := do
  match (← get).anchors.lookup name with
  | some (some anchored) => do
      modify fun c => { c with events := c.events + 1, jumps := c.jumps + anchored.jumps + 1 }
      return anchored.node
  | _ => failure

/-- A node that is built by `build` and given an anchor. -/
def anchored (anchor : Option (List Char)) (build : Composer Node) : Composer Node := do
  match anchor with
  | none => build
  | some name =>
      setAnchor name none
      let before := (← get).jumps
      let node ← build
      setAnchor name (some ⟨node, (← get).jumps - before⟩)
      return node

/-- A scalar without text. -/
def nothing : Composer Node := do
  count 1
  return .nothing

/-! ## Nodes -/

/-- A node unless one of the given tokens comes next. -/
def nodeUnless (stops : List Token) (node : Composer Node) : Composer Node := do
  if (← nextIn stops) then nothing else node

mutual

/-- A node.  Blocks may start in a block only, and a sequence that is not indented may stand only
where a mapping holds it.  Every two calls take a token, so the count of tokens bounds them. -/
def node : Nat → Bool → Bool → Composer Node
  | 0, _, _ => failure
  | steps + 1, inBlock, inMapping => do
      match (← peek) with
      | some (.alias name) =>
          skip
          follow name
      | _ =>
          let (anchor, tag) ← properties
          anchored anchor do
            match (← peek) with
            | some (.scalar isPlain text) =>
                skip
                count 1
                return .scalar (tag.filter (· ≠ ['!'])) isPlain text
            | some .flowSequence =>
                skip
                count 2
                return .sequence tag (← flowItems steps true)
            | some .flowMapping =>
                skip
                count 2
                return .mapping tag (← flowPairs steps true)
            | some .blockEntry =>
                if inMapping then
                  count 2
                  return .sequence tag (← looseItems steps)
                else emptyNode anchor tag
            | some .blockSequence =>
                if inBlock then
                  skip
                  count 2
                  return .sequence tag (← blockItems steps)
                else emptyNode anchor tag
            | some .blockMapping =>
                if inBlock then
                  skip
                  count 2
                  return .mapping tag (← blockPairs steps)
                else emptyNode anchor tag
            | _ => emptyNode anchor tag

/-- A node without text, which has to have an anchor or a tag. -/
def emptyNode (anchor tag : Option (List Char)) : Composer Node := do
  if anchor.isNone && tag.isNone then failure
  count 1
  return .scalar tag true []

/-- The elements of a sequence in a block. -/
def blockItems : Nat → Composer (List Node)
  | 0 => failure
  | steps + 1 => do
      if (← skipIf .blockEntry) then
        let item ← nodeUnless [.blockEntry, .blockEnd] (node steps true false)
        return item :: (← blockItems steps)
      else
        expect .blockEnd
        return []

/-- The elements of a sequence that is not indented. -/
def looseItems : Nat → Composer (List Node)
  | 0 => failure
  | steps + 1 => do
      if (← skipIf .blockEntry) then
        let item ← nodeUnless [.blockEntry, .key, .value, .blockEnd] (node steps true false)
        return item :: (← looseItems steps)
      else return []

/-- The pairs of a mapping in a block. -/
def blockPairs : Nat → Composer (List (Node × Node))
  | 0 => failure
  | steps + 1 => do
      if (← skipIf .key) then
        let key ← nodeUnless [.key, .value, .blockEnd] (node steps true true)
        let value ← blockValue steps
        return (key, value) :: (← blockPairs steps)
      else if (← peek) = some .value then
        let key ← nothing
        let value ← blockValue steps
        return (key, value) :: (← blockPairs steps)
      else
        expect .blockEnd
        return []

/-- The value of a pair in a block. -/
def blockValue : Nat → Composer Node
  | 0 => failure
  | steps + 1 => do
      if (← skipIf .value) then nodeUnless [.key, .value, .blockEnd] (node steps true true)
      else nothing

/-- The elements of a sequence in brackets; a pair among them is a mapping of its own. -/
def flowItems : Nat → Bool → Composer (List Node)
  | 0, _ => failure
  | steps + 1, first => do
      if (← skipIf .flowSequenceEnd) then return []
      if !first then expect .flowEntry
      if (← skipIf .key) then
        count 2
        let pair ← flowItemPair steps
        return .mapping none [pair] :: (← flowItems steps false)
      else if (← skipIf .flowSequenceEnd) then return []
      else
        let item ← node steps false false
        return item :: (← flowItems steps false)

/-- A pair among the elements of a sequence in brackets, after the mark of its key.  Where the key
is missing, the token that follows is passed over. -/
def flowItemPair : Nat → Composer (Node × Node)
  | 0 => failure
  | steps + 1 => do
      let key ←
        if (← nextIn [.value, .flowEntry, .flowSequenceEnd]) then do
          skip
          nothing
        else node steps false false
      let value ←
        if (← skipIf .value) then
          nodeUnless [.flowEntry, .flowSequenceEnd] (node steps false false)
        else nothing
      return (key, value)

/-- The pairs of a mapping in brackets. -/
def flowPairs : Nat → Bool → Composer (List (Node × Node))
  | 0, _ => failure
  | steps + 1, first => do
      if (← skipIf .flowMappingEnd) then return []
      if !first then expect .flowEntry
      if (← skipIf .key) then
        let key ← nodeUnless [.value, .flowEntry, .flowMappingEnd] (node steps false false)
        let value ←
          if (← skipIf .value) then
            nodeUnless [.flowEntry, .flowMappingEnd] (node steps false false)
          else nothing
        return (key, value) :: (← flowPairs steps false)
      else if (← skipIf .flowMappingEnd) then return []
      else
        let key ← node steps false false
        let value ← nothing
        return (key, value) :: (← flowPairs steps false)

end

/-! ## The document -/

/-- The handles that need no declaration. -/
def defaultHandles : List (List Char × List Char) :=
  [(['!'], ['!']), (['!', '!'], "tag:yaml.org,2002:".toList)]

/-- The directives in front of a document, each at most once. -/
def directives : Nat → Bool → List (List Char × List Char) → Composer Unit
  | 0, _, _ => failure
  | steps + 1, versioned, declared => do
      match (← peek) with
      | some (.versionDirective isKnown) =>
          if versioned || !isKnown then failure
          skip
          directives steps true declared
      | some (.tagDirective handle tagPrefix) =>
          if (declared.lookup handle).isSome then failure
          skip
          directives steps versioned ((handle, tagPrefix) :: declared)
      | _ => modify fun c => { c with handles := declared ++ defaultHandles }

/-- Passes over the marks of the end of a document. -/
def skipEnds : Nat → Composer Unit
  | 0 => failure
  | steps + 1 => do
      if (← skipIf .documentEnd) then skipEnds steps

/-- The only document of a text, if there is one. -/
def document? (steps : Nat) : Composer (Option Node) := do
  match (← peek) with
  | none => return none
  | some token =>
      let explicit := match token with
        | .versionDirective _ | .tagDirective _ _ | .documentStart => true
        | _ => false
      directives steps false []
      if explicit then expect .documentStart
      let stops := [.documentStart, .documentEnd]
      let root ←
        match (← peek) with
        | none => nothing
        | some (.versionDirective _) | some (.tagDirective _ _) => nothing
        | some token =>
            if explicit && stops.contains token then nothing else node steps true false
      let _ ← skipIf .documentEnd
      skipEnds steps
      if (← peek).isSome then failure
      return some root

end Composer

/-- The tree of a text with one document; nothing for a text without any. -/
def read? (s : List Char) : Option (Option Node) := do
  let tokens ← tokens? s
  let (root, composition) ← (Composer.document? (3 * tokens.length + 3)).run
    { tokens := tokens, anchors := [], handles := [], events := 0, jumps := 0 }
  if 100 * composition.events < composition.jumps then none else some root

end Stencil.Yaml
