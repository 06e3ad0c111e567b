import CallChain.Chain.Stage

/-!
# The span of a call

What deeper stages log belongs to a span that names the call.  The fields of the context are logged
inside it first.
-/

set_option autoImplicit false

namespace CallChain

namespace CallSpan

def name : String := "context"

variable {ρ : Type}

def spanOf (ctx : CallContext) (i : Invocation ρ) : LogFields :=
  [("request_id", .string (ctx.requestId.getD "")), ("method", .string i.method),
    ("path", .string i.target), ("address", .string i.client.address)]

def intercept (ctx : CallContext) (next : Next ρ) : Call ρ CallResult := do
  let inner := ctx.inSpan (spanOf ctx (← get))
  for (key, value) in ctx.fields.entries do
    Call.log inner .debug "call field" [("field", .string key), ("value", .string value)]
  next.run inner

/-- The stage for a client with the given skippers. -/
def stage (skippers : List Skipper) : Stage := .skippedBy skippers name intercept

end CallSpan

end CallChain
