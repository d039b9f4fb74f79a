import AlertDesk.Url.Path

/-!
# AlertDesk.Url

URLs in their parsed form, each part encoded as it is written.  A path is a
list of segments, or, for a URL such as `mailto:x@y`, a bare text to which
nothing can be added.
-/

namespace AlertDesk

/-- The path of a URL. -/
inductive UrlPath where
  | bare (text : String)
  | segments (path : List String)
  deriving DecidableEq

/-- A URL. -/
structure Url where
  scheme : String
  user : String := ""
  password : Option String := none
  /-- The host; `some ""` if there is a place for one, `none` if there is not. -/
  host : Option String := none
  port : Option Nat := none
  path : UrlPath
  query : Option String := none
  fragment : Option String := none
  deriving DecidableEq

namespace Url

/-- The port that a scheme stands for. -/
def defaultPort? (scheme : String) : Option Nat :=
  match scheme with
  | "http" | "ws" => some 80
  | "https" | "wss" => some 443
  | "ftp" => some 21
  | _ => none

/-- The port that is talked to, if it is known. -/
def knownPort? (u : Url) : Option Nat := u.port <|> defaultPort? u.scheme

/-- Schemes whose URLs have a host and read `\` as `/`. -/
def isSpecialScheme (scheme : String) : Bool := (defaultPort? scheme).isSome || scheme = "file"

/-- Whether the URL's scheme is one of those. -/
def isSpecial (u : Url) : Bool := isSpecialScheme u.scheme

/-- Whether there is a host to talk to. -/
def hasHost (u : Url) : Bool := u.host.any (· ≠ "")

/-- Whether the scheme is that of a web server. -/
def isWeb (u : Url) : Bool := u.scheme = "http" || u.scheme = "https"

/-! ## text -/

/-- User name and password before the host. -/
def userText (u : Url) : List Char :=
  match u.password with
  | some password => u.user.toList ++ ':' :: password.toList ++ ['@']
  | none => if u.user = "" then [] else u.user.toList ++ ['@']

/-- The port after the host. -/
def portText (u : Url) : List Char :=
  match u.port with
  | some n => ':' :: (Nat.repr n).toList
  | none => []

/-- Everything from the slashes to the port. -/
def authorityText (u : Url) : List Char :=
  match u.host with
  | some host => ['/', '/'] ++ u.userText ++ host.toList ++ u.portText
  | none => []

/-- The path. -/
def pathText (u : Url) : List Char :=
  match u.path with
  | .bare text => text.toList
  | .segments path => Path.text path

/-- What stands between the scheme and a path that begins with two slashes but follows no host. -/
def pathGuard (u : Url) : List Char :=
  match u.host, u.path with
  | none, .segments ("" :: _ :: _) => ['/', '.']
  | _, _ => []

/-- A part with a mark in front of it, if it is there. -/
def marked (mark : Char) : Option String → List Char
  | some s => mark :: s.toList
  | none => []

/-- The text of a URL. -/
def text (u : Url) : String := String.ofList <|
  u.scheme.toList ++ ':' :: u.authorityText ++ u.pathGuard ++ u.pathText ++ marked '?' u.query ++
    marked '#' u.fragment

/-- Path and query, as a request names them. -/
def target (u : Url) : String := String.ofList (u.pathText ++ marked '?' u.query)

/-! ## changing a URL -/

/-- Whether segments can be added to the path. -/
def carriesPath (u : Url) : Bool :=
  match u.path with
  | .bare _ => false
  | .segments _ => true

/-- Adds segments to the path; one empty segment at its end is dropped first. -/
def extend (u : Url) (segments : List String) : Url :=
  match u.path with
  | .bare _ => u
  | .segments path =>
    { u with path := .segments (segments.foldl (Path.push u.isSpecial) (Path.dropEmptyEnd path)) }

/-- Adds parameters to the query; an empty query is dropped. -/
def withParameters (u : Url) (pairs : List (String × String)) : Url :=
  let old := (u.query.getD "").toList
  let new := Form.write pairs
  let all := if old.isEmpty ∨ new.isEmpty then old ++ new else old ++ '&' :: new
  { u with query := if all.isEmpty then none else some (String.ofList all) }

/-- Leaves out user name and password. -/
def withoutUser (u : Url) : Url := { u with user := "", password := none }

end Url

end AlertDesk
