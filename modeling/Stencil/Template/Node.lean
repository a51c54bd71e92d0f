import Stencil.Expr.Parser
import Stencil.Template.Piece

/-!
# The tree of a template

Blocks are built in one pass over the pieces with a stack of the blocks that are still open.  An
innermost block claims the nearest closing tag, and a tag that does not fit the innermost open block
is a fault.
-/

namespace Stencil

/-- An expression with the text that it was parsed from. -/
structure Source where
  text : String
  expr : Expr

/-- A node of a template. -/
inductive Node where
  | text (s : String)
  /-- The value of an expression, escaped or, without the flag, as it stands.  No tag asks for the
  latter. -/
  | interpolation (source : Source) (escape : Bool)
  | index
  | ifThen (condition : Source) (body : List Node)
  | ifElse (condition : Source) (body alternative : List Node)
  | each (loopVar : String) (collection : Source) (body : List Node)

namespace Template

/-- The expression of a text in a tag, with faults at their places in the template. -/
def parseSource (source : Located (List Char)) : Except (Located Fault) Source :=
  let text := String.ofList source.item
  match Expr.parse text with
  | .ok expr => .ok ⟨text, expr⟩
  | .error fault => .error ⟨source.offset + fault.offset, .expression fault.item⟩

/-- The expression of an interpolation.  An empty one gives `undefined`. -/
def parseInterpolation (source : Located (List Char)) : Except (Located Fault) Source :=
  if source.item.isEmpty then .ok ⟨"", .literal .undefined⟩ else parseSource source

/-- The start of a block that is still open. -/
inductive Opening where
  | ifThen (condition : Source)
  | ifElse (condition : Source) (body : List Node)
  | each (loopVar : String) (collection : Source)

/-- An open block: how and where it starts, and the nodes in front of it, last one first. -/
structure Block where
  opening : Opening
  offset : Nat
  before : List Node

/-- The open blocks, innermost first, and the nodes of the innermost one, last one first. -/
structure Progress where
  blocks : List Block
  nodes : List Node

namespace Progress

/-- Nothing read yet. -/
def start : Progress :=
  ⟨[], []⟩

/-- One more node. -/
def add (progress : Progress) (node : Node) : Progress :=
  { progress with nodes := node :: progress.nodes }

/-- One more open block. -/
def enter (progress : Progress) (offset : Nat) (opening : Opening) : Progress :=
  ⟨⟨opening, offset, progress.nodes⟩ :: progress.blocks, []⟩

/-- Goes over to the alternative of the innermost condition. -/
def turn (progress : Progress) (offset : Nat) : Except (Located Fault) Progress :=
  match progress.blocks with
  | [] => .error ⟨offset, .strayElse⟩
  | block :: outer =>
      match block.opening with
      | .ifThen condition =>
          .ok ⟨{ block with opening := .ifElse condition progress.nodes.reverse } :: outer, []⟩
      | .ifElse _ _ => .error ⟨offset, .secondElse⟩
      | .each _ _ => .error ⟨offset, .elseInEach⟩

/-- Closes the innermost block, which has to be a condition. -/
def closeIf (progress : Progress) (offset : Nat) : Except (Located Fault) Progress :=
  match progress.blocks with
  | [] => .error ⟨offset, .strayIfClose⟩
  | block :: outer =>
      match block.opening with
      | .ifThen condition =>
          .ok ⟨outer, .ifThen condition progress.nodes.reverse :: block.before⟩
      | .ifElse condition body =>
          .ok ⟨outer, .ifElse condition body progress.nodes.reverse :: block.before⟩
      | .each _ _ => .error ⟨offset, .ifCloseInEach⟩

/-- Closes the innermost block, which has to be a loop. -/
def closeEach (progress : Progress) (offset : Nat) : Except (Located Fault) Progress :=
  match progress.blocks with
  | [] => .error ⟨offset, .strayEachClose⟩
  | block :: outer =>
      match block.opening with
      | .each loopVar collection =>
          .ok ⟨outer, .each loopVar collection progress.nodes.reverse :: block.before⟩
      | .ifThen _ | .ifElse _ _ => .error ⟨offset, .eachCloseInIf⟩

/-- Reads one piece. -/
def step (progress : Progress) : Piece → Except (Located Fault) Progress
  | .text s => .ok (progress.add (.text (String.ofList s)))
  | .tag offset tag =>
      match tag with
      | .interpolation source => do
          .ok (progress.add (.interpolation (← parseInterpolation source) true))
      | .index => .ok (progress.add .index)
      | .ifOpen condition => do
          .ok (progress.enter offset (.ifThen (← parseSource condition)))
      | .eachOpen loopVar collection => do
          .ok (progress.enter offset (.each loopVar (← parseSource collection)))
      | .ifElse => progress.turn offset
      | .ifClose => progress.closeIf offset
      | .eachClose => progress.closeEach offset

/-- The nodes of the whole template, if no block is open. -/
def finish (progress : Progress) : Except (Located Fault) (List Node) :=
  match progress.blocks with
  | [] => .ok progress.nodes.reverse
  | block :: _ =>
      match block.opening with
      | .ifThen _ | .ifElse _ _ => .error ⟨block.offset, .openIf⟩
      | .each _ _ => .error ⟨block.offset, .openEach⟩

end Progress

/-- The nodes that pieces make up. -/
def nodesOf (pieces : List Piece) : Except (Located Fault) (List Node) := do
  (← pieces.foldlM Progress.step .start).finish

end Template

end Stencil
