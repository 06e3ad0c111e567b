import CallChain.Tls.Identity
import CallChain.Tls.Settings
import CallChain.Transport.Message
import CallChain.Url.Reading

/-!
# What HTTP refuses before it is on the wire

An HTTP transport refuses some settings when it connects and some requests when it sends, before any
byte leaves.  A text that is no identity is refused first.  After that it is the proxy, the user agent,
the certificate authorities and an identity whose parts do not fit that keep a client from being set
up.  Authorities in a text without a certificate are none, which is not refused.
-/

set_option autoImplicit false

namespace CallChain

namespace Http

/-- The characters of a method or a header name. -/
def isTokenChar (c : Char) : Bool := c.isAlphanum || "!#$%&'*+-.^_`|~".toList.contains c

/-- Whether a text is a method or a header name. -/
def isToken (s : String) : Bool := s != "" && s.toList.all isTokenChar

/-- Whether a text is the value of a header: no controls but the tab. -/
def isHeaderValue (s : String) : Bool :=
  s.toList.all fun c => c == '\t' || (' ' ≤ c && c != '\x7F')

def hasHost (u : Url) : Bool := u.authority.any fun a => a.host.render != ""

/-- Whether a text is a URL with a host. -/
def isTarget (s : String) : Bool :=
  match Url.parse s with
  | .ok u => hasHost u
  | .error _ => false

/-- Whether a text is the address of a proxy, where the scheme may be left out. -/
def isProxy (s : String) : Bool :=
  match Url.parse s with
  | .ok u => hasHost u || isTarget ("http://" ++ s)
  | .error .relative => isTarget ("http://" ++ s)
  | .error _ => false

/-- Why a request cannot be sent as it is, if so. -/
def requestProblem? (r : TransportRequest) : Option TransportError :=
  if !isToken r.method then some (.invalidRequest "invalid HTTP method")
  else if isTarget r.url && r.headers.pairs.all (fun p => isToken p.1 && isHeaderValue p.2) then none
  else some (.send "builder error")

end Http

/-- How an HTTP transport is connected. -/
structure HttpConnector where
  proxy : Option String
  userAgent : Option String
  deriving DecidableEq, Repr

namespace HttpConnector

/-- The text of a client's identity: its certificate and its key. -/
def identityText (tls : TlsSettings) : String :=
  tls.clientCert.getD "" ++ "\n" ++ tls.clientKey.getD ""

/-- Whether the certificate authorities can be read. -/
def hasAuthorities (tls : TlsSettings) : Bool := (Certificate.authorities? (tls.serverCa.getD "")).isSome

/-- Whether the client can be set up for a mode; an identity is given where the mode needs one. -/
def canSetUp (tls : TlsSettings) (identity : Option Identity) : Bool :=
  match tls.mode with
  | .plain | .skipVerify => true
  | .withCa => hasAuthorities tls
  | .mutualTls => hasAuthorities tls && identity.all Identity.isUsable

/-- Why no transport can be made, if so. -/
def problem? (c : HttpConnector) (tls : TlsSettings) : Option TransportError :=
  let identity := Identity.ofText? (identityText tls)
  if tls.mode = .mutualTls ∧ identity = none then some (.tls "builder error")
  else if c.proxy.all Http.isProxy && c.userAgent.all Http.isHeaderValue &&
      canSetUp tls identity then
    none
  else some (.connect "builder error")

end HttpConnector

end CallChain
