import CallChain.Chain.Invocation
import CallChain.Json.Decode
import CallChain.Url.Reading

/-!
# The exchange at the center of the chain

The request is made from the invocation: its URL, the time it may take, its headers and body.  Then the
connection is taken, the request sent, and the response decoded into the reply.  A call that has to
stop waits neither for the connection nor for the response, and every failure before the request is
handed to the connection leaves the other side untouched.
-/

set_option autoImplicit false

namespace CallChain

namespace Exchange

/-- A part of the exchange, which may fail. -/
abbrev Step (ρ : Type) (α : Type) := ExceptT CallFailure (Call ρ) α

/-- A request about to be sent. -/
structure Prepared where
  address : String
  url : String
  limit : Option Duration
  request : TransportRequest

/-- The time a call may take: what is configured, zero meaning no limit, and never more than what is
left before the deadline. -/
def effectiveTimeout (configured remaining : Option Duration) : Option Duration :=
  match configured.filter fun d => !d.isZero, remaining with
  | some t, some r => some (t.min r)
  | some t, none => some t
  | none, r => r

/-- The headers a body is sent with: its content type is JSON unless something else is said. -/
def headersFor (headers : Headers) (body : Option Bytes) : Headers :=
  if body.isSome && !headers.contains "content-type" then
    headers.insert "content-type" "application/json"
  else headers

variable {ρ : Type}

/-- Work that does not touch the invocation. -/
def lift {α : Type} (t : Attempt α) : Step ρ α := ExceptT.lift (Call.ofAttempt t)

/-- Writes a log record of the call. -/
def log (ctx : CallContext) (level : Level) (message : String) (fields : LogFields) :
    Step ρ Unit :=
  ExceptT.lift (Call.log ctx level message fields)

/-- The outcome of an action, its fault with one more frame. -/
def ofAction {α : Type} (place : Place) (a : Action α) : Step ρ (Except Fault α) := do
  let codes := (← get).codes
  match ← lift (Attempt.ofAction a) with
  | .ok a => return .ok a
  | .error f => return .error (Fault.pushFrame codes (codes.site place) f)

/-- A URL with the query parameters of the call added. -/
def withQuery (ctx : CallContext) (info : CallInfo) (plain : String) : Step ρ String := do
  let i ← get
  match info.query.addTo plain with
  | .ok url => return url
  | .error reason =>
    log ctx .error "invalid request url" [("url", .string plain)]
    throw (.new (Fault.wrap i.codes (i.codes.site .queryFails) Codes.httpError reason))

/-- The URL of the call: the resolver's if there is one, with the query parameters added. -/
def urlOf (ctx : CallContext) (info : CallInfo) (address : String) : Step ρ String := do
  let i ← get
  let plain ← match info.url with
    | none => pure (address ++ i.target)
    | some resolver =>
      match ← ofAction .resolverFails resolver with
      | .ok url => pure url
      | .error f =>
        log ctx .error "url resolver failed" []
        throw (.new f)
  withQuery ctx info plain

def prepare (ctx : CallContext) : Step ρ Prepared := do
  let i ← get
  let info := i.info
  let address := info.endpoint.getD i.client.address
  let url ← urlOf ctx info address
  let world ← lift Work.look
  let limit := effectiveTimeout (info.timeout.or i.client.timeout) (ctx.remaining world)
  let body := i.body.bytes?
  let request : TransportRequest := ⟨i.method, url, headersFor info.headers body, body, limit⟩
  match info.process with
  | none => return ⟨address, url, limit, request⟩
  | some process =>
    match ← ofAction .processorFails (process request) with
    | .ok request => return ⟨address, url, limit, request⟩
    | .error f => throw (.new f)

/-- Takes the connection, unless the call has to stop before. -/
def connect (ctx : CallContext) (url : String) : Step ρ ConnectionId := do
  let i ← get
  match ← lift (Attempt.unlessBefore ctx.doneGuard (i.client.toDialer.get ctx.span)) with
  | some (.ok c) => return c
  | some (.error f) =>
    log ctx .error "get client connection failed" []
    throw (.new f)
  | none =>
    let world ← lift Work.look
    log ctx .error "call finished before the connection was ready" [("url", .string url)]
    throw (.new (Fault.wrap i.codes (i.codes.site .connectionLate) Codes.httpError
      (ctx.reason world)))

/-- Sends a request within its limit, unless the call has to stop before. -/
def sendUnlessDone (ctx : CallContext) (connector : Connector) (c : ConnectionId)
    (limit : Option Duration) (request : TransportRequest) :
    Attempt (Except TransportError TransportResponse) := do
  match ← Attempt.unlessBefore ctx.doneGuard (Attempt.within limit (connector.send c request)) with
  | some (some outcome) => return outcome
  | some none => return .error (.timeout (limit.getD .zero))
  | none => return .error (.cancelled (ctx.reason (← Work.look)))

def send (ctx : CallContext) (c : ConnectionId) (p : Prepared) : Step ρ RawResponse := do
  let i ← get
  match ← lift (sendUnlessDone ctx i.client.connector c p.limit p.request) with
  | .ok r =>
    return { RawResponse.ofResponse r with
             requestUrl := p.url, requestAddr := p.address, requestHeaders := p.request.headers }
  | .error e =>
    log ctx .error "send failed" [("url", .string p.url)]
    throw (.new (Fault.wrapCause i.codes (i.codes.site .sendFails) Codes.httpError
      (.other e.message)))

/-- Decodes a response into the reply, if there is one. -/
def decodeReply [Reply ρ] (place : Place) (ctx : CallContext) (response : RawResponse) :
    Step ρ Unit := do
  let i ← get
  match i.reply.seen? with
  | none => return
  | some reply =>
    match Reply.decode? reply response.body with
    | some reply => set { i with reply := .live reply }
    | none =>
      log ctx .error "decode response body failed" []
      throw (.withResponse
        (Fault.wrapCause i.codes (i.codes.site place) Codes.responseParse (.other Json.malformed))
        response)

/-- The exchange as it stands at the center of the chain. -/
def run [Reply ρ] (ctx : CallContext) : Call ρ CallResult := ExceptT.run do
  let prepared ← prepare ctx
  let noParse := (← get).info.responseNotParse
  let c ← connect ctx prepared.url
  let response ← send ctx c prepared
  if !noParse then decodeReply .decodeFails ctx response
  return response

end Exchange

end CallChain
