import Stencil.Number.Digits
import Stencil.Text.Percent

/-!
# Addresses

A parsed address: its parts as they are written, already escaped.  The address as a whole is
written from the parts, and the parts that scripts ask for by name are read off them.
-/

namespace Stencil

/-- An address.  Without a host there is no authority, and a path that does not start with a
slash is opaque: nothing can be resolved against it. -/
structure Url where
  scheme : String
  username : String
  password : Option String
  host : Option String
  port : Option Nat
  path : String
  query : Option String
  fragment : Option String
  deriving DecidableEq

namespace Url

/-- The kinds of schemes that differ in how the rest of an address is read. -/
inductive SchemeKind where
  | special
  | file
  | other
  deriving DecidableEq

/-- Schemes of the web and of files. -/
def schemeKind (scheme : String) : SchemeKind :=
  if scheme = "file" then .file
  else if scheme ∈ ["http", "https", "ws", "wss", "ftp"] then .special
  else .other

/-- The port of a scheme that is not written. -/
def defaultPort? (scheme : String) : Option Nat :=
  match scheme with
  | "http" | "ws" => some 80
  | "https" | "wss" => some 443
  | "ftp" => some 21
  | _ => none

/-- Decimal text of a port. -/
def portText (port : Nat) : String :=
  String.ofList (Number.natText 10 port)

/-- Host and port as one text. -/
def hostAndPort (url : Url) : String :=
  match url.host, url.port with
  | some host, some port => host ++ ":" ++ portText port
  | some host, none => host
  | none, _ => ""

/-- User name and password in front of a host. -/
def credentials (url : Url) : String :=
  match url.password with
  | some password => url.username ++ ":" ++ password ++ "@"
  | none => if url.username = "" then "" else url.username ++ "@"

/-- What stands between scheme and path.  Without an authority a path that starts with two
slashes is kept apart from one. -/
def authority (url : Url) : String :=
  match url.host with
  | some _ => "//" ++ url.credentials ++ url.hostAndPort
  | none => if url.path.startsWith "//" then "/." else ""

/-- The query with its mark. -/
def queryText (url : Url) : String :=
  match url.query with
  | some query => "?" ++ query
  | none => ""

/-- The fragment with its mark. -/
def fragmentText (url : Url) : String :=
  match url.fragment with
  | some fragment => "#" ++ fragment
  | none => ""

/-- The address as a text. -/
def href (url : Url) : String :=
  url.scheme ++ ":" ++ url.authority ++ url.path ++ url.queryText ++ url.fragmentText

/-- Whether relative addresses can be resolved against this one. -/
def isBase (url : Url) : Bool :=
  url.host.isSome || url.path.startsWith "/"

end Url

end Stencil
