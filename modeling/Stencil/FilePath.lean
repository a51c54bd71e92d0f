import Stencil.Text.Utf8

/-!
# File paths

A path is a raw text of pieces between slashes.  Blank pieces and single dots lead nowhere, except
that a dot may start a path.
-/

namespace Stencil

/-- A path of a file or folder. -/
structure FilePath where
  raw : RawText
  deriving DecidableEq

namespace FilePath

/-- The byte between the pieces of a path. -/
def slash : UInt8 :=
  0x2F

/-- The byte in front of an extension. -/
def dot : UInt8 :=
  0x2E

/-- Whether a path is empty. -/
def isEmpty (path : FilePath) : Bool :=
  path.raw.bytes.isEmpty

/-- Whether a path starts at the root. -/
def isAbsolute (path : FilePath) : Bool :=
  path.raw.bytes.head? = some slash

/-- Whether a path has a slash at its end. -/
def endsInSlash (path : FilePath) : Bool :=
  path.raw.bytes.getLast? = some slash

/-- The pieces between slashes. -/
def pieces (path : FilePath) : List RawText :=
  (path.raw.bytes.splitOn slash).map RawText.mk

/-- Pieces that lead nowhere. -/
def isIdle (piece : RawText) : Bool :=
  piece = "" || piece = "."

/-- Pieces from the last to the first, without those at the end that lead nowhere.  The first piece
stays. -/
def dropIdle : List RawText → List RawText
  | [] => []
  | [first] => [first]
  | piece :: earlier => if isIdle piece then dropIdle earlier else piece :: earlier

/-- The path of pieces from the last to the first. -/
def ofReversed (reversed : List RawText) : FilePath :=
  if reversed = [↑""] then ⟨"/"⟩
  else ⟨⟨[slash].intercalate (reversed.reverse.map RawText.bytes)⟩⟩

/-- The path without its last piece.  A path of one piece leaves the empty path, and the root has
nothing above it. -/
def parent? (path : FilePath) : Option FilePath :=
  match dropIdle path.pieces.reverse with
  | [] => none
  | [first] => if first = "" then none else some ⟨""⟩
  | _ :: earlier => some (ofReversed (dropIdle earlier))

/-- The name at the end of a path. -/
def name? (path : FilePath) : Option RawText :=
  match dropIdle path.pieces.reverse with
  | [] => none
  | last :: _ => if isIdle last || last = ".." then none else some last

/-- What follows the last dot of the name.  A dot in front of all else does not count. -/
def extension? (path : FilePath) : Option RawText := do
  let name ← path.name?
  let reversed := name.bytes.reverse
  let stem := (reversed.dropWhile (· ≠ dot)).drop 1
  if stem.isEmpty then none
  else some ⟨(reversed.takeWhile (· ≠ dot)).reverse⟩

/-- A path as seen from a folder. -/
def under (folder path : FilePath) : FilePath :=
  if path.isAbsolute || folder.isEmpty then path
  else if folder.endsInSlash then ⟨⟨folder.raw.bytes ++ path.raw.bytes⟩⟩
  else ⟨⟨folder.raw.bytes ++ slash :: path.raw.bytes⟩⟩

end FilePath

end Stencil
