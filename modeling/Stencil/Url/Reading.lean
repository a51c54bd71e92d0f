import Stencil.Url.Path

/-!
# Reading addresses

An address is read on its own or relative to a base.  Controls and blanks around it are ignored,
tabs and line breaks within it as well.
-/

namespace Stencil.Url

open Text

/-- What follows the path of an address. -/
structure Tail where
  query : Option String
  fragment : Option String

/-- Query and fragment of a text that is empty or starts with `?` or `#`. -/
def readTail (kind : SchemeKind) (s : List Char) : Tail :=
  let written (escapes : Char → Bool) (part : List Char) := String.ofList (escapeIn escapes part)
  let fragment := match s.dropWhile (· != '#') with
    | _ :: rest => some (written isEscapedInFragment rest)
    | [] => none
  let query := match s.takeWhile (· != '#') with
    | _ :: rest => some (written (isEscapedInQuery kind) rest)
    | [] => none
  ⟨query, fragment⟩

/-- The part of a text in front of query and fragment, and these. -/
def cutTail (s : List Char) : List Char × List Char :=
  let isPath (c : Char) : Bool := c != '?' && c != '#'
  (s.takeWhile isPath, s.dropWhile isPath)

/-- The same address with another query and fragment. -/
def withTail (url : Url) (tail : Tail) : Url :=
  { url with query := tail.query, fragment := tail.fragment }

/-- An address of a scheme without further parts. -/
def ofScheme (scheme : String) : Url :=
  ⟨scheme, "", none, none, none, "", none, none⟩

/-! ## Authorities -/

/-- User name and password of an authority.  An empty password counts as none. -/
def readCredentials (s : List Char) : String × Option String :=
  let written (part : List Char) := String.ofList (escapeIn isEscapedInCredentials part)
  let name := s.takeWhile (· != ':')
  match s.dropWhile (· != ':') with
  | _ :: c :: rest => (written name, some (written (c :: rest)))
  | _ => (written name, none)

/-- The text of a host, up to a colon outside brackets. -/
def hostLength (inBrackets : Bool) : List Char → Nat
  | [] => 0
  | c :: rest =>
      if c = ':' && !inBrackets then 0
      else 1 + hostLength (if c = '[' then true else if c = ']' then false else inBrackets) rest

/-- A port number after its colon; the port that the scheme implies is dropped. -/
def readPort? (scheme : String) (s : List Char) : Option (Option Nat) :=
  if !s.all isDigit || 65535 < ofDigits 10 s then none
  else
    let port := ofDigits 10 s
    some (if s.isEmpty || defaultPort? scheme = some port then none else some port)

/-- The text before and after the last occurrence of `@`. -/
def cutLastAt (s : List Char) : Option (List Char × List Char) :=
  if s.contains '@' then
    let after := (s.reverse.takeWhile (· != '@')).reverse
    some (s.take (s.length - after.length - 1), after)
  else none

/-- The rest of an address after the double slash of its authority. -/
def readAuthority? (scheme : String) (s : List Char) : Option Url := do
  let kind := schemeKind scheme
  let inAuthority (c : Char) : Bool := !isSlash kind c && c != '?' && c != '#'
  let authority := s.takeWhile inAuthority
  let rest := s.dropWhile inAuthority
  let (credentials, hostAndPort) := (cutLastAt authority).getD ([], authority)
  if (cutLastAt authority).isSome && hostAndPort.isEmpty && credentials.isEmpty && !rest.isEmpty
    then failure
  let (username, password) := readCredentials credentials
  let length := hostLength false hostAndPort
  let hostText := hostAndPort.take length
  let portText := hostAndPort.drop length
  let host ← if kind = .other then readOpaqueHost? hostText else readHost? hostText
  if host.isEmpty && (!portText.isEmpty || username ≠ "" || password.isSome) then failure
  let port ← match portText with
    | _ :: digits => readPort? scheme (digits.takeWhile (· != '\\'))
    | [] => some none
  let rest := if kind = .other then portText.dropWhile (· != '\\') ++ rest else rest
  let (pathText, tailText) := cutTail rest
  let path :=
    if kind = .other && pathText.isEmpty then []
    else
      (extendPath kind ['/']
        (if pathText.head?.any (isSlash kind) then pathText.drop 1 else pathText)).1
  let url : Url :=
    { scheme, username, password, host := some (String.ofList host), port,
      path := String.ofList path, query := none, fragment := none }
  return url.withTail (readTail kind tailText)

/-! ## File addresses -/

/-- A file address with a host and a path that is extended by a text.  A drive removes the
host. -/
def fileUrl (host : String) (path text : List Char) : Url :=
  let (pathText, tailText) := cutTail text
  let (full, drive) := extendPath .file path pathText
  let url : Url :=
    { ofScheme "file" with
      host := some (if drive then "" else host), path := String.ofList full }
  url.withTail (readTail .file tailText)

/-- A file address after a double slash.  A drive is no host, and neither is `localhost`. -/
def readFileAuthority? (s : List Char) : Option Url :=
  let hostText := s.takeWhile (!endsSegment ·)
  let rest := s.dropWhile (!endsSegment ·)
  if isDrive hostText then some (fileUrl "" ['/'] s)
  else if hostText.isEmpty then some (fileUrl "" ['/'] rest)
  else
    (readHost? hostText).map fun host =>
      if host = "localhost".toList then fileUrl "" ['/'] rest
      else
        fileUrl (String.ofList host) ['/']
          (if rest.head?.any (isSlash .file) then rest.drop 1 else rest)

/-- The first segment of a path. -/
def firstSegment (path : String) : List Char :=
  (path.toList.drop 1).takeWhile (· != '/')

/-- A file address after a single slash: drive and host of the base are kept. -/
def readFileRoot (base : Option Url) (s : List Char) : Url :=
  match base with
  | none => fileUrl "" [] s
  | some base =>
      if startsWithDrive (s.drop 1) then fileUrl "" [] s
      else
        let drive := firstSegment base.path
        if isNormalDrive drive then fileUrl "" ('/' :: drive) s
        else { fileUrl "" [] s with host := base.host }

/-- The rest of a file address after its scheme, or an address relative to a file. -/
def readFile? (base : Option Url) (s : List Char) : Option Url :=
  match s with
  | a :: b :: rest =>
      if isSlash .file a && isSlash .file b then readFileAuthority? rest
      else if isSlash .file a then some (readFileRoot base s)
      else readFileRelative? base s
  | [a] => if isSlash .file a then some (readFileRoot base s) else readFileRelative? base s
  | [] => readFileRelative? base s
where
  /-- A file address without a slash in front. -/
  readFileRelative? (base : Option Url) (s : List Char) : Option Url :=
    match base with
    | none => some (fileUrl "" ['/'] s)
    | some base =>
        match s with
        | [] => some { base with fragment := none }
        | '?' :: _ => some (base.withTail (readTail .file s))
        | '#' :: _ => some { base with fragment := (readTail .file s).fragment }
        | _ =>
            if startsWithDrive s then some (fileUrl "" ['/'] s)
            else
              let (pathText, tailText) := cutTail s
              let path := (extendPath .file (parent .file base.path.toList) pathText).1
              some ({ base with path := String.ofList path }.withTail (readTail .file tailText))

/-! ## Addresses of other kinds -/

/-- An address relative to a base that is no file. -/
def readRelative? (base : Url) (s : List Char) : Option Url :=
  let kind := schemeKind base.scheme
  let withPath (path : List Char) (tailText : List Char) : Option Url :=
    some ({ base with path := String.ofList path }.withTail (readTail kind tailText))
  match s with
  | [] => some { base with fragment := none }
  | '?' :: _ => some (base.withTail (readTail kind s))
  | '#' :: _ => some { base with fragment := (readTail kind s).fragment }
  | c :: rest =>
      if c = '/' || c = '\\' then
        let afterSlashes := s.dropWhile fun c => c = '/' || c = '\\'
        if s.length < afterSlashes.length + 2 then
          let (pathText, tailText) := cutTail rest
          withPath (extendPath kind ['/'] pathText).1 tailText
        else
          match s with
          | '/' :: '/' :: authority => readAuthority? base.scheme authority
          | _ => readAuthority? base.scheme afterSlashes
      else
        let (pathText, tailText) := cutTail s
        let kept := parent kind base.path.toList
        withPath (extendPath kind (if kept.isEmpty then ['/'] else kept) pathText).1 tailText

/-- The rest of an address after a scheme that is neither of the web nor of files. -/
def readOther? (scheme : String) (s : List Char) : Option Url :=
  match s with
  | '/' :: '/' :: rest => readAuthority? scheme rest
  | _ =>
      let (pathText, tailText) := cutTail s
      let path := match pathText with
        | '/' :: rest => (extendPath .other ['/'] rest).1
        | _ => escapeIn isControl pathText
      some ({ ofScheme scheme with path := String.ofList path }.withTail (readTail .other tailText))

/-- Characters of a scheme. -/
def isSchemeChar (c : Char) : Bool :=
  isAsciiAlphanumeric c || c = '+' || c = '-' || c = '.'

/-- The scheme in front of a colon, in lowercase, and what follows. -/
def cutScheme? (s : List Char) : Option (String × List Char) :=
  match s.dropWhile isSchemeChar with
  | ':' :: rest =>
      if s.head?.any isAsciiLetter then
        some (String.ofList ((s.takeWhile isSchemeChar).map Char.toLower), rest)
      else none
  | _ => none

/-- Controls and the blank. -/
def isEdge (c : Char) : Bool :=
  c.toNat ≤ 0x20

/-- The characters of an address that count. -/
def significantChars (s : String) : List Char :=
  ((s.toList.dropWhile isEdge).reverse.dropWhile isEdge).reverse.filter
    fun c => c != '\t' && c != '\n' && c != '\r'

/-- The address that a text denotes, relative to a base if there is one. -/
def read? (base : Option Url) (input : String) : Option Url :=
  let s := significantChars input
  match cutScheme? s with
  | some (scheme, rest) =>
      match schemeKind scheme with
      | .file => readFile? (base.filter (·.scheme = "file")) rest
      | .special =>
          let afterSlashes := rest.dropWhile fun c => c = '/' || c = '\\'
          match base.filter fun b => b.scheme = scheme && rest.length < afterSlashes.length + 2 with
          | some base => readRelative? base rest
          | none => readAuthority? scheme afterSlashes
      | .other => readOther? scheme rest
  | none =>
      match base with
      | none => none
      | some base =>
          if s.head? = some '#' then
            some { base with fragment := (readTail (schemeKind base.scheme) s).fragment }
          else if !base.isBase then none
          else if schemeKind base.scheme = .file then readFile? (some base) s
          else readRelative? base s

/-! ## Parts by name -/

/-- The origin of an address: scheme, host and port of a web address.  The address inside a
`blob:` address is asked in turn, at most `depth` times. -/
def originWithin : Nat → Url → String
  | 0, _ => "null"
  | depth + 1, url =>
      if url.scheme = "blob" then
        match read? none url.path with
        | some inner => originWithin depth inner
        | none => "null"
      else if schemeKind url.scheme = .special then url.scheme ++ "://" ++ url.hostAndPort
      else "null"

/-- The origin of an address; others than web addresses have none. -/
def origin (url : Url) : String :=
  originWithin (url.path.length + 1) url

/-- A text with a mark in front, or nothing if the text is empty. -/
def marked (mark : String) (text : Option String) : String :=
  match text with
  | none | some "" => ""
  | some text => mark ++ text

/-- The part of an address with a name. -/
def part? (url : Url) (name : String) : Option String :=
  match name with
  | "href" => some url.href
  | "protocol" => some (url.scheme ++ ":")
  | "host" => some url.hostAndPort
  | "hostname" => some (url.host.getD "")
  | "port" => some ((url.port.map portText).getD "")
  | "pathname" => some url.path
  | "search" => some (marked "?" url.query)
  | "hash" => some (marked "#" url.fragment)
  | "origin" => some url.origin
  | "username" => some url.username
  | "password" => some (url.password.getD "")
  | _ => none

end Stencil.Url
