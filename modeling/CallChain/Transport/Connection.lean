import CallChain.Work.Attempt

/-!
# The connection of a client

A client dials once and keeps the connection for all of its calls.  Callers look for the connection
under the lock for reading; one that finds none takes the lock for writing, looks again, and dials.  So
there is never more than one dial at a time, and callers that wait for a dial use what it brings.
-/

set_option autoImplicit false

namespace CallChain

/-- The other side of the wire: how a connection is made and how a request is sent over it. -/
structure Connector where
  connect : String → TlsSettings → Attempt (Except TransportError ConnectionId)
  send : ConnectionId → TransportRequest → Attempt (Except TransportError TransportResponse)

/-- What a client dials with. -/
structure Dialer where
  address : String
  tls : TlsSettings
  codes : CodeRegistry
  connector : Connector

namespace Dialer

/-- Makes a connection and keeps it.  The lock is held for writing. -/
def dial (d : Dialer) (span : Option LogFields) : Attempt (Except Fault ConnectionId) := do
  Work.record (.dialed d.address d.tls.mode)
  match ← d.connector.connect d.address d.tls with
  | .ok c =>
    Work.modify fun w => { w with connection := some c }
    return .ok c
  | .error e =>
    Work.log span .error "dial failed" [("address", .string d.address)]
    return .error (Fault.wrapCause d.codes (d.codes.site .dialFails) Codes.clientGenerate
      (.other e.message))

/-- The connection that is kept, if there is one. -/
def kept : Work (Option ConnectionId) :=
  Work.holding false (Work.modifyGet fun w => (w.connection, w))

/-- The connection, dialed unless there is one by the time the lock is held for writing. -/
def dialUnlessKept (d : Dialer) (span : Option LogFields) : Attempt (Except Fault ConnectionId) :=
  Attempt.holding true do
    match (← Work.look).connection with
    | some c => return .ok c
    | none => d.dial span

/-- The connection of the client, dialed on first use. -/
def get (d : Dialer) (span : Option LogFields) : Attempt (Except Fault ConnectionId) := do
  match ← kept with
  | some c => return .ok c
  | none => d.dialUnlessKept span

/-- Drops the connection; the next call dials again. -/
def close : Work Unit := Work.holding true (Work.modify fun w => { w with connection := none })

def isConnected : Work Bool := do return (← kept).isSome

end Dialer

end CallChain
