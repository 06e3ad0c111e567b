import CallChain.Chain.Catalog
import CallChain.Chain.Exchange

/-!
# Clients

A client is made for one remote service.  `Client.invoke` runs a call through the chain that was built
with the client, or through a chain of its own when an option names the stages; the names are looked up
when the call is made.  `Client.call` hands the connection to a handler of the caller and bounds the
time it may take.
-/

set_option autoImplicit false

namespace CallChain

/-- A client for one remote service. -/
structure Client where
  settings : ClientSettings
  options : List CallOption
  stageNames : List String
  skippers : List Skipper
  chain : Chain

namespace Client

variable {ρ α : Type}

/-- The chain of a call with the given options, and the warnings that finding it gives. -/
def chainFor (c : Client) (catalog : Catalog) (options : List CallOption) :
    Chain × List LogRecord :=
  match (CallInfo.ofOptions options).stages with
  | some names => (catalog.chainOf names c.skippers, catalog.warnings names)
  | none => (c.chain, [])

/-- Runs one call.  The outcome comes with the caller's reply as the call left it. -/
def invoke [Reply ρ] (c : Client) (catalog : Catalog) (ctx : CallContext) (method target : String)
    (body : RequestBody) (reply : Option ρ) (options : List CallOption) :
    Work (Except Panic CallResult × Option ρ) := do
  let options := CallOption.combine c.options options
  let (chain, warnings) := c.chainFor catalog options
  for w in warnings do
    Work.record (.logged w)
  let (outcome, i) ← (chain.run Exchange.run ctx).run.run
    ⟨method, target, body, .ofOption reply, options, c.settings⟩
  return (outcome, i.reply.value?)

/-- Runs one call whose response is decoded into a fresh reply, which is the answer of a call that
succeeds. -/
def fetch [Reply ρ] (c : Client) (catalog : Catalog) (ctx : CallContext) (method target : String)
    (body : RequestBody) (fresh : ρ) (options : List CallOption) : Attempt (Except CallFailure ρ) :=
  ExceptT.mk do
    match ← c.invoke catalog ctx method target body (some fresh) options with
    | (.error p, _) => return .error p
    | (.ok (.error e), _) => return .ok (.error e)
    | (.ok (.ok _), reply) => return .ok (.ok (reply.getD fresh))

/-- Encodes a value as the body of a call and runs it. -/
def invokeJson [Reply ρ] (c : Client) (catalog : Catalog) (ctx : CallContext)
    (method target : String) (value : Encodable) (fresh : ρ) (options : List CallOption) :
    Attempt (Except CallFailure ρ) := do
  match RequestBody.encode value with
  | .ok body => c.fetch catalog ctx method target body fresh options
  | .error e =>
    Work.log ctx.span .error "marshal request failed" []
    return .error (.new (Fault.wrapCause c.settings.codes (c.settings.codes.site .bodyFails)
      Codes.encodingJson (.other e.message)))

def handlerLimit (c : Client) (remaining : Option Duration) : Option Duration :=
  match c.settings.timeout, remaining with
  | some t, some r => some (t.min r)
  | some t, none => some t
  | none, r => r

/-- Hands the connection to a handler, within a limit. -/
def handle (c : Client) (ctx : CallContext) (limit : Option Duration)
    (handler : ConnectionId → Attempt (Except Fault α)) : Attempt (Except Fault α) := do
  match ← c.settings.toDialer.get ctx.span with
  | .error f => return .error f
  | .ok connection =>
    match ← Attempt.within limit (handler connection) with
    | some outcome => return outcome
    | none =>
      return .error (Fault.wrap c.settings.codes (c.settings.codes.site .handlerTimeout)
        Codes.rpcInvoke ("call timed out after " ++ (limit.getD .zero).text))

/-- Runs a handler against the connection, unless the call has to stop before it is done. -/
def call (c : Client) (ctx : CallContext) (handler : ConnectionId → Attempt (Except Fault α)) :
    Attempt (Except Fault α) := do
  let codes := c.settings.codes
  let limit := c.handlerLimit (ctx.remaining (← Work.look))
  let outcome ← Attempt.unlessBefore ctx.doneGuard (c.handle ctx limit handler)
  let result ← match outcome with
    | some result => pure result
    | none => do
      let reason := ctx.reason (← Work.look)
      pure (.error (Fault.wrap codes (codes.site .handlerLate) Codes.rpcInvoke reason))
  match result with
  | .ok a => return .ok a
  | .error f =>
    Work.log ctx.span .error "call failed" [("code", .int f.code)]
    return .error (Fault.pushFrame codes (codes.site .callFails) f)

end Client

end CallChain
