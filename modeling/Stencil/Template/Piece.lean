import Stencil.Template.Tag

/-!
# Pieces of a template

A source without line breaks is cut at its tags.  A tag reaches from two opening braces to the
nearest two closing braces; opening braces that are never closed are text.  The first tag that
declares globals is left out, and the text around it grows together.
-/

namespace Stencil.Template

open Text

/-- A run of text, or a tag with its place. -/
inductive Piece where
  | text (s : List Char)
  | tag (offset : Nat) (tag : Tag)
  deriving DecidableEq

/-- The source without its line breaks. -/
def normalize (source : List Char) : List Char :=
  source.filter fun c => c != '\n' && c != '\r'

/-- What a tag starts with. -/
def openMark : List Char :=
  ['\x7b', '\x7b']

/-- What a tag ends with. -/
def closeMark : List Char :=
  ['\x7d', '\x7d']

/-! ## Declared globals -/

/-- What the declaration of globals starts with. -/
def globalsMark : List Char :=
  openMark ++ "@globals ".toList

/-- The first declaration of globals: its place and what stands in it. -/
def findGlobals? (s : List Char) : Option (Located (List Char)) := do
  let (before, after) ← cut? globalsMark s
  let (list, _) ← cut? closeMark after
  some ⟨before.length, list⟩

/-- The names between the commas of a declaration. -/
def listedNames (list : List Char) : List (List Char) :=
  ((splitOn [','] list).map trim).filter fun name => !name.isEmpty

/-- The distinct names of a declaration. -/
def declaredNames (declaration : Located (List Char)) :
    Except (Located Fault) (List String) :=
  let names := listedNames declaration.item
  match names.find? fun name => !Name.isVariable name with
  | some name =>
      .error ⟨declaration.offset + globalsMark.length, .badGlobalName (String.ofList name)⟩
  | none => .ok (names.map String.ofList).eraseDups

/-! ## Cutting -/

/-- Text in front of pieces.  Two runs of text never stand side by side. -/
def prependText (s : List Char) (pieces : List Piece) : List Piece :=
  match s, pieces with
  | [], pieces => pieces
  | s, .text more :: rest => .text (s ++ more) :: rest
  | s, pieces => .text s :: pieces

/-- The pieces of a text that starts at `offset`, without the tag at `skipped`. -/
def cutFrom (skipped : Option Nat) (offset : Nat) (s : List Char) :
    Except (Located Fault) (List Piece) :=
  match _hopen : cut? openMark s with
  | none => .ok (prependText s [])
  | some (before, after) =>
      match _hclose : cut? closeMark after with
      | none => .ok (prependText s [])
      | some (inner, rest) =>
          let start := offset + before.length
          let next := start + inner.length + 4
          if skipped = some start then do
            let more ← cutFrom skipped next rest
            .ok (prependText before more)
          else do
            let tag ← Tag.read (start + 2) inner
            let more ← cutFrom skipped next rest
            .ok (prependText before (.tag start tag :: more))
termination_by s.length
decreasing_by
  all_goals
    have opened := congrArg List.length (eq_append_of_cut? _hopen)
    have closed := congrArg List.length (eq_append_of_cut? _hclose)
    simp only [List.length_append, openMark, closeMark, List.length_cons] at opened closed
    omega

/-- The pieces of a source and the globals that it declares. -/
structure Scanned where
  pieces : List Piece
  globals : List String

/-- Cuts a source without line breaks. -/
def scan (source : List Char) : Except (Located Fault) Scanned := do
  match findGlobals? source with
  | none => .ok ⟨← cutFrom none 0 source, []⟩
  | some declaration => do
      let globals ← declaredNames declaration
      .ok ⟨← cutFrom (some declaration.offset) 0 source, globals⟩

end Stencil.Template
