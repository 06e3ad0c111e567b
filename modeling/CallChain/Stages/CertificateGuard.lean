import CallChain.Chain.Stage

/-!
# The guard on the client certificate

A client that does not present a certificate makes no call at all.
-/

set_option autoImplicit false

namespace CallChain

namespace CertificateGuard

def name : String := "mtls"

variable {ρ : Type}

def intercept (ctx : CallContext) (next : Next ρ) : Call ρ CallResult := do
  let i ← get
  let mode := i.client.mode
  if mode = .mutualTls then
    match ← next.run ctx with
    | .ok response => return .ok response
    | .error e => return .error (e.updateStack i.codes (i.codes.site .guardPasses))
  else
    Call.log ctx .warn "refusing call without client certificate"
      [("interceptor", .string name), ("mode", .string mode.name), ("path", .string i.target)]
    return .error (.new (Fault.wrap i.codes (i.codes.site .guardRefuses) Codes.clientCertificate
      ("mutual tls is required, client runs in " ++ mode.name ++ " mode")))

/-- The stage for a client with the given skippers. -/
def stage (skippers : List Skipper) : Stage := .skippedBy skippers name intercept

end CertificateGuard

end CallChain
