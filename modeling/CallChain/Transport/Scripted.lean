import CallChain.Transport.Connection

/-!
# A remote side that follows a script

For tests and local development: dials may take time or fail, and every request is answered by a
handler, perhaps after a while.
-/

set_option autoImplicit false

namespace CallChain

/-- A remote side that answers from a handler. -/
structure ScriptedRemote where
  handler : TransportRequest → Attempt (Except TransportError TransportResponse)
  failure : Option String
  connectDelay : Option Duration
  sendDelay : Option Duration

namespace ScriptedRemote

/-- The remote side of a handler, without delays. -/
def answering (handler : TransportRequest → Attempt (Except TransportError TransportResponse)) :
    ScriptedRemote :=
  ⟨handler, none, none, none⟩

/-- The remote side that answers every request with success. -/
def ok : ScriptedRemote := answering fun _ => return .ok (.success .null)

/-- Answers each request with the next of a list of answers, the last one again and again.  A request
that gets this far counts as answered. -/
def inTurn (answers : List (TransportRequest → Attempt (Except TransportError TransportResponse)))
    (request : TransportRequest) : Attempt (Except TransportError TransportResponse) := do
  let n := (← Work.look).answered
  Work.record .answered
  match answers[min n (answers.length - 1)]? with
  | some answer => answer request
  | none => return .ok (.success .null)

/-- The remote side that no dial reaches. -/
def failing (reason : String) : ScriptedRemote := { ok with failure := some reason }

/-- Waits, if there is a time to wait. -/
def pause : Option Duration → Work Unit
  | some d => Work.sleep d
  | none => return

def connector (r : ScriptedRemote) : Connector where
  connect _ _ := do
    Work.record .reached
    pause r.connectDelay
    match r.failure with
    | some reason => return .error (.connect reason)
    | none => return .ok (← Work.look).reached
  send _ request := do
    Work.record (.handed request)
    pause r.sendDelay
    r.handler request

def failingFirst (errors : List TransportError) (c : Connector) : Connector where
  connect address tls := do
    match errors[(← Work.look).dials - 1]? with
    | some e => return .error e
    | none => c.connect address tls
  send := c.send

end ScriptedRemote

end CallChain
