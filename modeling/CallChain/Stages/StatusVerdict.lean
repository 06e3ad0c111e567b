import CallChain.Chain.Stage
import CallChain.Json.Decode

/-!
# The verdict of the call status

Every reply of a structured service says how the call went.  A status of success lets the response
pass; any other status becomes the fault of the call, with the history it brought and one more frame.
A reply that does not say it breaks the rule, which is a fault of its own.  The reply is asked where it
has been decoded; otherwise the body is read.
-/

set_option autoImplicit false

namespace CallChain

namespace StatusVerdict

def name : String := "callstatus"

/-- What the body of a response shows where the call status belongs. -/
def fieldOfBody (body : Bytes) : StatusField :=
  match Json.parse? body with
  | some v => .ofJson v
  | none => .invalid

/-- What shows how the call went: the reply unless its decoding was put off, else the body. -/
def fieldOf {ρ : Type} [Reply ρ] (i : Invocation ρ) (response : RawResponse) : StatusField :=
  match i.reply.seen?, i.info.responseNotParse with
  | some reply, false => Reply.statusField reply
  | _, _ => fieldOfBody response.body

/-- How a reply breaks the rule, if it does not show a status. -/
def violation? : StatusField → Option String
  | .absent => some "reply has no call status field"
  | .null => some "reply call status is null"
  | .invalid => some ("reply call status is invalid: " ++ Json.malformed)
  | .present _ => none

variable {ρ : Type} [Reply ρ]

/-- What becomes of a response whose reply shows a field. -/
def judge (ctx : CallContext) (codes : CodeRegistry) (field : StatusField) (response : RawResponse) :
    Call ρ CallResult := do
  match violation? field with
  | some reason =>
    Call.log ctx .error "call status missing" [("interceptor", .string name)]
    return .error
      (.withResponse
        (Fault.wrap codes (codes.site .verdictViolated) Codes.callStatusViolation reason) response)
  | none =>
    match CallStatus.toFault codes field.status? with
    | none => return .ok response
    | some f =>
      Call.log ctx .error "remote call returned an error" [("code", .int f.code)]
      return .error (.withResponse (Fault.pushFrame codes (codes.site .verdictReports) f) response)

def intercept (ctx : CallContext) (next : Next ρ) : Call ρ CallResult := do
  let result ← next.run ctx
  let i ← get
  match result with
  | .error e => return .error (e.updateStack i.codes (i.codes.site .verdictPasses))
  | .ok response => judge ctx i.codes (fieldOf i response) response

/-- The stage for a client with the given skippers. -/
def stage (skippers : List Skipper) : Stage := .skippedBy skippers name intercept

end StatusVerdict

end CallChain
