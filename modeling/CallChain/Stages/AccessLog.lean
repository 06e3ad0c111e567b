import CallChain.Chain.Stage

/-!
# The access log

One line per call with its status, base address, duration, method and URL; a failed call leaves an
error record too, and its fault gains a frame.
-/

set_option autoImplicit false

namespace CallChain

namespace AccessLog

def name : String := "logging"

/-- A number filled up with spaces on the left to three characters. -/
def threeWide (n : Nat) : String :=
  let digits := toString n
  String.ofList (List.replicate (3 - digits.length) ' ') ++ digits

def line (status : Nat) (address : String) (latency : Duration) (method url : String) : String :=
  threeWide status ++ " - [" ++ address ++ "] " ++ latency.text ++ " " ++ method ++ "  " ++ url

variable {ρ : Type}

def intercept (ctx : CallContext) (next : Next ρ) : Call ρ CallResult := do
  let started := (← Call.ofAttempt Work.look).now
  let result ← next.run ctx
  let latency : Duration := ⟨(← Call.ofAttempt Work.look).now - started⟩
  let i ← get
  match result with
  | .ok r =>
    Call.log ctx .info (line r.statusCode r.requestAddr latency i.method r.requestUrl) []
    return .ok r
  | .error e =>
    let (status, address, url) := match e.response with
      | some r => (r.statusCode, r.requestAddr, r.requestUrl)
      | none => (0, i.client.address, i.target)
    Call.log ctx .info (line status address latency i.method url) []
    Call.log ctx .error "call failed"
      [("code", .int e.fault.code), ("request_id", .string (ctx.requestId.getD ""))]
    return .error (e.updateStack i.codes (i.codes.site .accessLog))

/-- The stage for a client with the given skippers. -/
def stage (skippers : List Skipper) : Stage := .skippedBy skippers name intercept

end AccessLog

end CallChain
