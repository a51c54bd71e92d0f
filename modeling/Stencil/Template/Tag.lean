import Stencil.Expr.Name
import Stencil.Template.Fault
import Stencil.Text.Search
import Stencil.Text.Space

/-!
# Tags

What stands between double braces is a tag: a mark of the block structure, the index of a loop, or
an expression.  The texts in a tag are trimmed and keep their places.
-/

namespace Stencil.Template

open Text

/-- A tag. -/
inductive Tag where
  | ifOpen (condition : Located (List Char))
  | ifElse
  | ifClose
  | eachOpen (loopVar : String) (collection : Located (List Char))
  | eachClose
  | index
  | interpolation (source : Located (List Char))
  deriving DecidableEq

/-- A trimmed text with its place.  A blank text stands where it starts. -/
def trimmedAt (offset : Nat) (s : List Char) : Located (List Char) :=
  ⟨if (trim s).isEmpty then offset else offset + leadingSpaces s, trim s⟩

/-- What follows a keyword that stands alone or in front of white space. -/
def afterKeyword? (keyword s : List Char) : Option (List Char) :=
  if keyword.isPrefixOf s then
    let rest := s.drop keyword.length
    if (rest.head?.map isSpace).getD true then some rest else none
  else none

/-- The tag that opens a condition, from the text after its keyword. -/
def readIf (place offset : Nat) (s : List Char) : Except (Located Fault) Tag :=
  let condition := trimmedAt offset s
  if condition.item.isEmpty then .error ⟨place, .noCondition⟩ else .ok (.ifOpen condition)

/-- The tag that opens a loop, from the text after its keyword. -/
def readEach (place offset : Nat) (s : List Char) : Except (Located Fault) Tag :=
  match cut? " in ".toList s with
  | none => .error ⟨place, .badEachForm⟩
  | some (before, after) =>
      let loopVar := trimmedAt offset before
      let collection := trimmedAt (offset + before.length + 4) after
      let name := String.ofList loopVar.item
      if !Name.isVariable loopVar.item then .error ⟨loopVar.offset, .badLoopVariable name⟩
      else if collection.item.isEmpty then .error ⟨place, .noCollection⟩
      else .ok (.eachOpen name collection)

/-- The tags that are a single word. -/
def wordTag? (s : List Char) : Option Tag :=
  if s = "else".toList then some .ifElse
  else if s = "/if".toList then some .ifClose
  else if s = "/each".toList then some .eachClose
  else if s = "@index".toList then some .index
  else none

/-- The tag of a trimmed text with its place. -/
def readTrimmed (inner : Located (List Char)) : Except (Located Fault) Tag :=
  let s := inner.item
  match afterKeyword? "#if".toList s with
  | some rest => readIf inner.offset (inner.offset + 3) rest
  | none =>
      match wordTag? s with
      | some tag => .ok tag
      | none =>
          match afterKeyword? "#each".toList s with
          | some rest => readEach inner.offset (inner.offset + 5) rest
          | none =>
              if s.head? = some '#' || s.head? = some '/' then
                .error ⟨inner.offset,
                  .unknownDirective (String.ofList (s.takeWhile fun c => !isSpace c))⟩
              else .ok (.interpolation inner)

/-- The tag between two pairs of braces.  Its text stands behind all leading white space. -/
def Tag.read (offset : Nat) (s : List Char) : Except (Located Fault) Tag :=
  readTrimmed ⟨offset + leadingSpaces s, trim s⟩

end Stencil.Template
