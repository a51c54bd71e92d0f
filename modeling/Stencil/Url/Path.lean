import Stencil.Url.Host

/-!
# Paths

A path is built segment by segment: `.` segments vanish, `..` segments take the segment before
them away, and drive letters in front of a file path are kept.
-/

namespace Stencil.Url

open Text

/-- Characters that are escaped in fragments. -/
def isEscapedInFragment (c : Char) : Bool :=
  isControl c || c ∈ [' ', '\x22', '<', '>', '\x60']

/-- Characters that are escaped in paths. -/
def isEscapedInPath (c : Char) : Bool :=
  isEscapedInFragment c || c ∈ ['#', '?', '\x7b', '\x7d']

/-- Characters that are escaped in user names and passwords. -/
def isEscapedInCredentials (c : Char) : Bool :=
  isEscapedInPath c || c ∈ ['/', ':', ';', '=', '@', '[', '\\', ']', '^', '|']

/-- Characters that are escaped in queries. -/
def isEscapedInQuery (kind : SchemeKind) (c : Char) : Bool :=
  isControl c || c ∈ [' ', '\x22', '#', '<', '>'] || (kind ≠ .other && c = '\x27')

/-! ## Drive letters -/

/-- A letter and a colon or bar. -/
def isDrive : List Char → Bool
  | [letter, mark] => isAsciiLetter letter && (mark = ':' || mark = '|')
  | _ => false

/-- A letter and a colon. -/
def isNormalDrive : List Char → Bool
  | [letter, mark] => isAsciiLetter letter && mark = ':'
  | _ => false

/-- Characters that end a segment in some address. -/
def endsSegment (c : Char) : Bool :=
  c ∈ ['/', '\\', '?', '#']

/-- A drive as a whole segment at the front. -/
def startsWithDrive (s : List Char) : Bool :=
  isDrive (s.take 2) && (s.drop 2).head?.all endsSegment

/-! ## Segments -/

/-- Slashes of a scheme kind: web and file addresses take backslashes as well. -/
def isSlash (kind : SchemeKind) (c : Char) : Bool :=
  c = '/' || (kind ≠ .other && c = '\\')

/-- The segments between slashes. -/
def segments (kind : SchemeKind) : List Char → List (List Char)
  | [] => [[]]
  | c :: rest =>
      if isSlash kind c then [] :: segments kind rest
      else
        match segments kind rest with
        | [] => [[c]]
        | segment :: more => (c :: segment) :: more

/-- The path up to and including its last slash. -/
def uptoLastSlash (path : List Char) : List Char :=
  (path.reverse.dropWhile (· != '/')).reverse

/-- The path without its last segment; a drive in front of a file path stays. -/
def parent (kind : SchemeKind) (path : List Char) : List Char :=
  let kept := uptoLastSlash path
  if kind = .file && isNormalDrive (path.drop kept.length) then path else kept

/-- Whether the slash at the end of a path can be removed to get at the segment before it. -/
def canDropSlash (path : List Char) : Bool :=
  let before := uptoLastSlash path.dropLast
  !before.isEmpty && !startsWithDrive (path.drop before.length)

/-- The path after a `..` segment. -/
def goUp (kind : SchemeKind) (path : List Char) (more : Bool) : List Char :=
  let trimmed := if path.getLast? = some '/' && canDropSlash path then path.dropLast else path
  let up := parent kind trimmed
  if more && up.getLast? ≠ some '/' then up ++ ['/'] else up

/-- Segments that stand for the current one. -/
def isSingleDot (segment : List Char) : Bool :=
  (segment.map Char.toLower) ∈ [".".toList, "%2e".toList]

/-- Segments that stand for the one above. -/
def isDoubleDot (segment : List Char) : Bool :=
  (segment.map Char.toLower) ∈ ["..".toList, ".%2e".toList, "%2e.".toList, "%2e%2e".toList]

/-- The path with one more segment, which a slash follows if there are `more`.  The second
component tells whether the segment is a drive of a file path. -/
def addSegment (kind : SchemeKind) (path segment : List Char) (more : Bool) :
    List Char × Bool :=
  let path :=
    if kind = .file && !segment.isEmpty && isNormalDrive (path.drop 1) then path ++ ['/'] else path
  let written := escapeIn isEscapedInPath segment
  let slash := if more then ['/'] else []
  if isDoubleDot written then (goUp kind path more, false)
  else if isSingleDot written then
    (if path.getLast? = some '/' then path else path ++ ['/'], false)
  else if kind = .file && isDrive written then (path ++ written.take 1 ++ ':' :: slash, true)
  else (path ++ written ++ slash, false)

/-- The path with more segments, and whether one of them is a drive of a file path. -/
def addSegments (kind : SchemeKind) (path : List Char) (drive : Bool) :
    List (List Char) → List Char × Bool
  | [] => (path, drive)
  | segment :: rest =>
      let (longer, isDrive) := addSegment kind path segment (!rest.isEmpty)
      addSegments kind longer (drive || isDrive) rest

/-- The path with the segments of a text; file paths start with exactly one slash. -/
def extendPath (kind : SchemeKind) (path text : List Char) : List Char × Bool :=
  let (full, drive) := addSegments kind path false (segments kind text)
  (if kind = .file then '/' :: full.dropWhile (· == '/') else full, drive)

end Stencil.Url
