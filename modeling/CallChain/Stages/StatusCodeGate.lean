import CallChain.Chain.Exchange
import CallChain.Chain.Stage

/-!
# The gate on the response status

Puts the decoding of the reply off until the status of the response is known: only a response of
success is decoded, and any other fails the call.
-/

set_option autoImplicit false

namespace CallChain

namespace StatusCodeGate

def name : String := "statuscode"

variable {ρ : Type} [Reply ρ]

def judge (ctx : CallContext) (response : RawResponse) : Exchange.Step ρ RawResponse := do
  let i ← get
  if !response.isSuccess then
    Exchange.log ctx .error "response status is not successful"
      [("status", .nat response.statusCode), ("url", .string response.requestUrl)]
    throw (.withResponse
      (Fault.wrap i.codes (i.codes.site .gateRefuses) Codes.httpError
        ("response status is " ++ toString response.statusCode ++ " " ++ response.status))
      response)
  Exchange.decodeReply .gateDecodes ctx response
  return response

def intercept (ctx : CallContext) (next : Next ρ) : Call ρ CallResult := do
  modify fun i => i.push .responseNotParse
  match ← next.run ctx with
  | .error e =>
    let codes := (← get).codes
    return .error (e.updateStack codes (codes.site .gatePasses))
  | .ok response => (judge ctx response).run

/-- The stage for a client with the given skippers. -/
def stage (skippers : List Skipper) : Stage := .skippedBy skippers name intercept

end StatusCodeGate

end CallChain
