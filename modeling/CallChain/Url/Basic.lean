import CallChain.Url.Form
import CallChain.Url.Host

/-!
# URLs

A URL has a scheme, perhaps an authority, a path, and perhaps a query and a fragment.  All of its parts
are kept as they are written, so that `Url.render` only puts them together.
-/

set_option autoImplicit false

namespace CallChain

/-- Who answers for a URL. -/
structure Authority where
  /-- Name and password as they are written, empty when there is none. -/
  userinfo : String
  /-- The host. -/
  host : Host
  /-- The port, unless it is the usual one of the scheme. -/
  port : Option Nat
  deriving DecidableEq, Repr

/-- The path of a URL. -/
inductive UrlPath where
  /-- A text without structure. -/
  | plain (s : String)
  /-- Segments, each after a slash. -/
  | segments (l : List String)
  deriving DecidableEq, Repr

/-- A URL. -/
structure Url where
  scheme : String
  authority : Option Authority
  path : UrlPath
  query : Option String
  fragment : Option String
  deriving DecidableEq, Repr

/-- What the scheme of a URL says about its form. -/
inductive SchemeKind where
  /-- A scheme of the web, whose URLs always have a host. -/
  | web
  /-- Files, whose URLs may have a host. -/
  | file
  /-- Any other scheme. -/
  | other
  deriving DecidableEq, Repr

namespace SchemeKind

def ofScheme (scheme : String) : SchemeKind :=
  if scheme = "file" then .file
  else if ["http", "https", "ws", "wss", "ftp"].contains scheme then .web
  else .other

/-- Whether the scheme has special rules at all, among them that a backslash is a slash. -/
def isSpecial (k : SchemeKind) : Bool := k != .other

end SchemeKind

namespace Url

def usualPort? : String → Option Nat
  | "http" => some 80
  | "ws" => some 80
  | "https" => some 443
  | "wss" => some 443
  | "ftp" => some 21
  | _ => none

def renderAuthority (a : Authority) : String :=
  "//" ++ (if a.userinfo = "" then "" else a.userinfo ++ "@") ++ a.host.render ++
    (match a.port with
      | some p => ":" ++ toString p
      | none => "")

/-- A path as it is written.  Without an authority, an empty first segment with others after it is led
in by a point, so that it is not taken for an authority. -/
def renderPath (bare : Bool) : UrlPath → String
  | .plain s => s
  | .segments l =>
    (match bare, l with
      | true, "" :: _ :: _ => "/."
      | _, _ => "") ++ String.join (l.map ("/" ++ ·))

def render (u : Url) : String :=
  u.scheme ++ ":" ++ (u.authority.map renderAuthority).getD "" ++
    renderPath u.authority.isNone u.path ++
    (match u.query with
      | some q => "?" ++ q
      | none => "") ++
    (match u.fragment with
      | some f => "#" ++ f
      | none => "")

/-- The URL with pairs added at the end of its query. -/
def appendPairs (u : Url) (pairs : List (String × String)) : Url :=
  { u with query := some (Form.appendPairs (u.query.getD "") pairs) }

end Url

end CallChain
