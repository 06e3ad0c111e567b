import CallChain.Chain.Stage

/-!
# Recovery from panics

A panic of a deeper stage becomes a fault with the unknown code.  Its history starts where the panic
happened, when that was recorded, and goes on with the recovering stage itself.
-/

set_option autoImplicit false

namespace CallChain

namespace Recovery

def name : String := "recovery"

def messageOf (p : Panic) : String := p.payload.getD "unknown panic"

/-- Takes the place of the last panic out of the world. -/
def takeSite : Work (Option CallSite) :=
  Work.modifyGet fun w => (w.panicSite, { w with panicSite := none })

def faultOf (codes : CodeRegistry) (site : Option CallSite) (p : Panic) : Fault :=
  Fault.pushFrame codes (codes.site .recovered)
    (Fault.wrap codes (site.getD (codes.site .panicUnseen)) Codes.unknown ("panic: " ++ messageOf p))

variable {ρ : Type}

def intercept (ctx : CallContext) (next : Next ρ) : Call ρ CallResult := do
  let _ ← Call.ofAttempt takeSite
  match ← (next.run ctx).caught with
  | .ok result => return result
  | .error p =>
    let i ← get
    Call.log ctx .error "recovered from panic"
      [("interceptor", .string name), ("panic", .string (messageOf p)),
        ("method", .string i.method), ("path", .string i.target)]
    let site ← Call.ofAttempt takeSite
    return .error (.new (faultOf i.codes site p))

/-- The stage for a client with the given skippers. -/
def stage (skippers : List Skipper) : Stage := .skippedBy skippers name intercept

end Recovery

end CallChain
