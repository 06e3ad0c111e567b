import CallChain.Chain.Stage

/-!
# Stages that follow a script

For tests and local development: a stage that notes when it runs, does a list of things before the rest
of the chain, runs the rest again while it fails, and does a list of things to the outcome.  What it
does before may also end the call.
-/

set_option autoImplicit false

namespace CallChain

/-- What a scripted stage does before the rest of the chain. -/
inductive StageAction where
  | option (o : CallOption)
  | redirect (method target : Option String)
  | observe
  /-- Sets a header to the text that was passed along with the call, if any. -/
  | tag (header : String)
  | fail (code : Int) (description : String)
  | answer (response : RawResponse)
  /-- Panics, at a place that is recorded if it is given. -/
  | panic (p : Panic) (site : Option CallSite)
  | cancel
  | sleep (d : Duration)
  | dropReply
  | timeout (d : Duration)
  | requestId (id : String)
  | field (key value : String)

/-- What a scripted stage does to the outcome. -/
inductive OutcomeAction where
  | enrich
  /-- Makes a failure a success, with the response it carries or an empty one. -/
  | swallow
  | bare
  | rewrap (code : Int)
  | fail (code : Int) (description : String)
  | body (bytes : Bytes)
  | status (n : Nat)
  /-- Panics, at a place that is recorded if it is given. -/
  | panic (p : Panic) (site : Option CallSite)

/-- Panics, at a place that is recorded if it is given. -/
def Attempt.panicAt {α : Type} (p : Panic) (site : Option CallSite) : Attempt α := do
  if site.isSome then Work.modify fun w => { w with panicSite := site }
  throw p

/-- A stage that follows a script. -/
structure ScriptedStage where
  label : String
  /-- Where its own faults are made. -/
  site : CallSite
  /-- Where it marks the faults of others. -/
  marksAt : CallSite
  skippers : List Skipper
  before : List StageAction
  retries : Nat
  after : List OutcomeAction
  view : {ρ : Type} → World → CallContext → Invocation ρ → Next ρ → Json

namespace ScriptedStage

variable {ρ : Type}

def note (v : Json) : Call ρ Unit := Call.ofAttempt (Work.record (.noted v))

/-- Does one thing before the rest of the chain: the context to go on with, or the outcome.  What the
stage observes is the context it was given. -/
def act (s : ScriptedStage) (given : CallContext) (next : Next ρ) (ctx : CallContext)
    (a : StageAction) : Call ρ (Except CallResult CallContext) := do
  let i ← get
  match a with
  | .option o => set (i.push o)
  | .redirect method target =>
    set { i with method := method.getD i.method, target := target.getD i.target }
  | .observe => note (s.view (← Call.ofAttempt Work.look) given i next)
  | .tag header =>
    match i.info.data.bind PassedData.text? with
    | some t => set (i.push (.setHeader header [t]))
    | none => pure ()
  | .fail code description =>
    return .error (.error (.new (Fault.wrap i.codes s.site code description)))
  | .answer response => return .error (.ok response)
  | .panic p site => Call.ofAttempt (Attempt.panicAt p site)
  | .cancel => Call.ofAttempt (Work.modify (World.cancel ctx.token))
  | .sleep d => Call.ofAttempt (Work.sleep d)
  | .dropReply => set { i with reply := i.reply.putAside }
  | .timeout d =>
    let w ← Call.ofAttempt Work.look
    return .ok (← Call.ofAttempt (ExceptT.mk (pure (ctx.withTimeout w d))))
  | .requestId id => return .ok (ctx.withRequestId id)
  | .field key value => return .ok (ctx.withField key value)
  return .ok ctx

/-- Does everything before the rest of the chain, up to the first thing that ends the call. -/
def actAll (s : ScriptedStage) (given : CallContext) (next : Next ρ) :
    CallContext → List StageAction → Call ρ (Except CallResult CallContext)
  | ctx, [] => return .ok ctx
  | ctx, a :: r => do
    match ← s.act given next ctx a with
    | .ok ctx => s.actAll given next ctx r
    | .error outcome => return .error outcome

/-- Runs the rest of the chain, and again while it fails, so many times at most. -/
def persist (s : ScriptedStage) (rest : Call ρ CallResult) : Nat → Call ρ CallResult
  | 0 => rest
  | n + 1 => do
    match ← rest with
    | .ok r => return .ok r
    | .error _ =>
      note (.string (s.label ++ " retry"))
      s.persist rest n

def amend (s : ScriptedStage) (result : CallResult) (a : OutcomeAction) : Call ρ CallResult := do
  let codes := (← get).codes
  match result, a with
  | _, .panic p site => Call.ofAttempt (Attempt.panicAt p site)
  | .error e, .enrich => return .error (e.updateStack codes s.marksAt)
  | .error e, .swallow => return .ok (e.response.getD .empty)
  | .error e, .bare => return .error (.new e.fault)
  | .error e, .rewrap code =>
    return .error { e with fault := Fault.wrapCause codes s.marksAt code (.fault e.fault) }
  | .ok r, .fail code description =>
    return .error (.withResponse (Fault.wrap codes s.site code description) r)
  | .ok r, .body bytes => return .ok { r with body := bytes }
  | .ok r, .status n => return .ok { r with statusCode := n }
  | result, _ => return result

def summary : CallResult → String
  | .ok r => "ok " ++ toString r.statusCode
  | .error e => "err " ++ toString e.fault.code ++ " frames " ++ toString e.fault.stack.length

def intercept (s : ScriptedStage) (ctx : CallContext) (next : Next ρ) : Call ρ CallResult := do
  note (.string (s.label ++ " pre"))
  match ← s.actAll ctx next ctx s.before with
  | .error outcome => return outcome
  | .ok ctx =>
    let result ← s.persist (next.run ctx) s.retries
    note (.string (s.label ++ " post " ++ summary result))
    s.after.foldlM s.amend result

/-- The stage, which also stands aside when a skipper of the client matches. -/
def stage (s : ScriptedStage) (skippers : List Skipper) : Stage :=
  .skippedBy (s.skippers ++ skippers) s.label s.intercept

end ScriptedStage

end CallChain
