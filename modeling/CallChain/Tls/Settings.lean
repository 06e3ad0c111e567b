import CallChain.Config.Error
import CallChain.Json.Value
import CallChain.Text.Blank
import CallChain.Text.Quoted

/-!
# TLS settings

How a client secures its connection, in one of four modes.  `TlsSettings.validate` checks that the
credentials a mode needs are there; `TlsSettings.mode` reads the mode off without a check.
-/

set_option autoImplicit false

namespace CallChain

/-- How a client secures its connection. -/
inductive TlsMode where
  | plain
  | skipVerify
  | withCa
  | mutualTls
  deriving DecidableEq, Repr

namespace TlsMode

def name : TlsMode → String
  | .plain => "plain"
  | .skipVerify => "tls-skip-verify"
  | .withCa => "tls-with-ca"
  | .mutualTls => "mutual-tls"

def dataName : TlsMode → String
  | .plain => "plain"
  | .skipVerify => "tls_skip_verify"
  | .withCa => "tls_with_ca"
  | .mutualTls => "mutual_tls"

end TlsMode

/-- TLS switches and credentials as PEM texts. -/
structure TlsSettings where
  enabled : Bool
  skipVerify : Bool
  mutualTls : Bool
  serverCa : Option String
  clientCert : Option String
  clientKey : Option String
  deriving DecidableEq, Repr

namespace TlsSettings

def plain : TlsSettings := ⟨false, false, false, none, none, none⟩

/-- TLS without a check of the server. -/
def insecure : TlsSettings := { plain with enabled := true, skipVerify := true }

/-- TLS with the server checked against a certificate authority. -/
def withServerCa (ca : String) : TlsSettings := { plain with enabled := true, serverCa := some ca }

def mutualWith (ca cert key : String) : TlsSettings :=
  ⟨true, false, true, some ca, some cert, some key⟩

/-- Whether a credential is missing or blank. -/
def lacks (credential : Option String) : Bool :=
  match credential with
  | none => true
  | some s => Text.isBlank s

/-- The mode, when the credentials it needs are there. -/
def validate (s : TlsSettings) : Except ConfigError TlsMode :=
  if s.mutualTls then
    if lacks s.clientCert || lacks s.clientKey then .error .missingClientIdentity
    else if lacks s.serverCa then .error .missingMutualServerCa
    else .ok .mutualTls
  else if s.enabled then
    if s.skipVerify then .ok .skipVerify
    else if lacks s.serverCa then .error .missingServerCa
    else .ok .withCa
  else .ok .plain

/-- The mode the switches describe, whatever credentials there are. -/
def mode (s : TlsSettings) : TlsMode :=
  if s.mutualTls then .mutualTls
  else if s.enabled && s.skipVerify then .skipVerify
  else if s.enabled then .withCa
  else .plain

/-- The settings shown for diagnosis, the key hidden. -/
def describe (s : TlsSettings) : String :=
  Text.showRecord "TlsSettings"
    [("enabled", Text.showFlag s.enabled), ("skip_verify", Text.showFlag s.skipVerify),
      ("mutual", Text.showFlag s.mutualTls), ("server_ca", Text.showFlag s.serverCa.isSome),
      ("client_cert", Text.showFlag s.clientCert.isSome),
      ("client_key", Text.showOption (s.clientKey.map fun _ => Text.quote "<redacted>"))]

/-- The settings as the entries of an object. -/
def dataEntries (s : TlsSettings) : List (String × Json) :=
  let text := Json.orNull Json.string
  [("enabled", .bool s.enabled), ("skip_verify", .bool s.skipVerify),
    ("mutual", .bool s.mutualTls), ("server_ca", text s.serverCa),
    ("client_cert", text s.clientCert), ("client_key", text s.clientKey)]

end TlsSettings

end CallChain
