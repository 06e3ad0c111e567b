import CallChain.Client.Basic

/-!
# Building clients

A builder collects what a client is made of.  Building checks the address and the TLS settings and
builds the chain; nothing is dialed.
-/

set_option autoImplicit false

namespace CallChain

/-- What a client is made of. -/
structure ClientBuilder where
  address : String
  timeout : Option Duration
  tls : TlsSettings
  options : List CallOption
  stageNames : List String
  skippers : List Skipper

namespace ClientBuilder

/-- The builder of a client that only has an address. -/
def new (address : String) : ClientBuilder := ⟨address, none, .plain, [], [], []⟩

/-- Sets the time a call may take. -/
def withTimeout (b : ClientBuilder) (d : Duration) : ClientBuilder := { b with timeout := some d }

def withTls (b : ClientBuilder) (tls : TlsSettings) : ClientBuilder := { b with tls := tls }

/-- Secures the connection without a check of the server. -/
def withInsecure (b : ClientBuilder) : ClientBuilder :=
  { b with tls := { b.tls with enabled := true, skipVerify := true } }

/-- Secures the connection with the server checked against a certificate authority. -/
def withServerCa (b : ClientBuilder) (ca : String) : ClientBuilder :=
  { b with tls := { b.tls with enabled := true, serverCa := some ca } }

/-- Secures the connection with both sides checked. -/
def withMutualTls (b : ClientBuilder) (ca cert key : String) : ClientBuilder :=
  { b with tls := .mutualWith ca cert key }

/-- Sets the options that come before those of a call. -/
def withOptions (b : ClientBuilder) (options : List CallOption) : ClientBuilder :=
  { b with options := options }

def withStages (b : ClientBuilder) (names : List String) : ClientBuilder :=
  { b with stageNames := names }

def withSkippers (b : ClientBuilder) (skippers : List Skipper) : ClientBuilder :=
  { b with skippers := skippers }

/-- The mode the client would run in, or why it cannot be configured. -/
def check (b : ClientBuilder) : Except ConfigError TlsMode :=
  if Text.isBlank b.address then .error .emptyAddress else b.tls.validate

/-- The record of a configuration that was refused; a blank address leaves none. -/
def refusalLog (b : ClientBuilder) : ConfigError → List LogRecord
  | .emptyAddress => []
  | _ =>
    [⟨.error, "invalid tls configuration", [("address", .string b.address)], none⟩]

/-- Builds the client from the stages of a catalog, and says what is logged on the way.  A refusal names
the place of the caller. -/
def build (b : ClientBuilder) (catalog : Catalog) (codes : CodeRegistry) (connector : Connector)
    (site : CallSite) : Except Fault Client × List LogRecord :=
  match b.check with
  | .error e =>
    (.error (Fault.wrapCause codes site Codes.clientGenerate (.other e.message)),
      b.refusalLog e)
  | .ok mode =>
    let dialer : Dialer := ⟨b.address, b.tls, codes, connector⟩
    (.ok ⟨⟨dialer, b.timeout, mode⟩, b.options, b.stageNames, b.skippers,
        catalog.chainOf b.stageNames b.skippers⟩,
      catalog.warnings b.stageNames)

end ClientBuilder

end CallChain
