import CallChain.Transport.Connection

/-!
# Tasks that share a connection

Any number of tasks take and drop the connection of one client, each as often as it likes.  `Dialer.Step`
is one step of one of them: it begins an operation, acts, goes on after a wait whose guard holds, is given
up where it waits, or has its answer.  In between the world may change in any way that spares the lock and
the connection.  A `Reachable` pool is one that some order of such steps leads to, so what holds of all of
these holds of every schedule.

What a task is at is the work of `Dialer.get` and `Dialer.close` itself.  Next to it a task keeps a history:
the ticket it drew last, how far the dial of its operation has got, and the connections that were there
while it held the lock.  No step depends on the history.
-/

set_option autoImplicit false

namespace CallChain

/-- A change to the world that spares the lock and the connection. -/
def World.Spares (f : World → World) : Prop :=
  ∀ w, (f w).lock = w.lock ∧ (f w).connection = w.connection

/-- Work that spares the lock and the connection, also when it is given up. -/
def Work.Spares {α : Type} : Work α → Prop
  | .done _ => True
  | .act f next => World.Spares f ∧ ∀ w, (next w).Spares
  | .wait _ drop next => World.Spares drop ∧ next.Spares

/-- A connector whose dials spare the lock and the connection, which belong to the client. -/
def Connector.Spares (k : Connector) : Prop := ∀ address tls, (k.connect address tls).run.Spares

namespace Dialer

/-- What a dial comes to. -/
abbrev DialResult := Except Panic (Except TransportError ConnectionId)

/-- What taking the connection comes to. -/
abbrev GetResult := Except Panic (Except Fault ConnectionId)

/-- What a task can do with the connection. -/
inductive Operation where
  | get (span : Option LogFields)
  | close

/-- What a task is told at the end of an operation. -/
inductive Answer where
  /-- It took the connection, or could not. -/
  | got (r : GetResult)
  /-- It dropped the connection, if there was one. -/
  | closed

namespace Operation

def work (d : Dialer) : Operation → Work Answer
  | .get span => (d.get span).run.bind fun r => .done (.got r)
  | .close => Dialer.close.bind fun _ => .done .closed

def isClose : Operation → Bool
  | .get _ => false
  | .close => true

end Operation

/-- How far the dial of an operation has got. -/
inductive DialState where
  | none
  /-- It is in flight, and this is what is left of it. -/
  | inFlight (rest : Work DialResult)
  | ended (r : DialResult)
  | abandoned

namespace DialState

/-- The dial after its task acted: it begins when the world counts one more. -/
def acted (d : Dialer) (f : World → World) (w : World) : DialState → DialState
  | .none =>
    if (f w).dials = w.dials then .none else .inFlight (d.connector.connect d.address d.tls).run
  | .inFlight (.act _ next) => .inFlight (next w)
  | .inFlight (.done r) => .ended r
  | s => s

/-- The dial after its task went on. -/
def woken : DialState → DialState
  | .inFlight (.wait _ _ next) => .inFlight next
  | s => s

/-- The dial after its task was given up. -/
def dropped : DialState → DialState
  | .inFlight _ => .abandoned
  | s => s

/-- How many dials succeed when the task acts. -/
def successes : DialState → Nat
  | .inFlight (.done (.ok (.ok _))) => 1
  | _ => 0

end DialState

/-- One of the tasks. -/
structure Task where
  /-- The operation it is at, and what is left of it. -/
  rest : Option (Operation × Work Answer)
  /-- The ticket it drew last. -/
  ticket : Option Nat
  /-- The dial of its operation. -/
  dial : DialState
  /-- The connections that were there while it held the lock for its operation. -/
  saw : List ConnectionId

namespace Task

def idle : Task := ⟨none, none, .none, []⟩

/-- The task after it began an operation. -/
def begun (d : Dialer) (op : Operation) (τ : Task) : Task :=
  ⟨some (op, op.work d), τ.ticket, .none, []⟩

/-- What the task has seen once it has looked at a world. -/
def sawIn (τ : Task) (w : World) : List ConnectionId :=
  if τ.ticket.any w.lock.isGranted then τ.saw ++ w.connection.toList else τ.saw

def acted (d : Dialer) (op : Operation) (f : World → World) (next : World → Work Answer) (w : World)
    (τ : Task) : Task where
  rest := some (op, next w)
  ticket := if (f w).lock.nextTicket = w.lock.nextTicket then τ.ticket else some w.lock.nextTicket
  dial := τ.dial.acted d f w
  saw := τ.sawIn w

def woken (op : Operation) (next : Work Answer) (w : World) (τ : Task) : Task :=
  { τ with rest := some (op, next), dial := τ.dial.woken, saw := τ.sawIn w }

/-- The task after it was given up. -/
def dropped (τ : Task) : Task := { τ with rest := none, dial := τ.dial.dropped }

/-- The task after it was told its answer. -/
def answered (τ : Task) : Task := { τ with rest := none }

/-- Whether the dial of the task is in flight. -/
def IsDialing (τ : Task) : Prop := ∃ p, τ.dial = .inFlight p

end Task

/-- The tasks and what they share. -/
structure Pool (ι : Type) where
  world : World
  task : ι → Task
  /-- How many dials succeeded. -/
  connected : Nat
  /-- How many times a connection was dropped that was there. -/
  released : Nat

/-- What a step is. -/
inductive Event (ι : Type) where
  | passed
  | began (i : ι) (op : Operation)
  | acted (i : ι)
  | woke (i : ι)
  | dropped (i : ι)
  | answered (i : ι) (a : Answer)

/-- The task a step is one of. -/
def Event.task? {ι : Type} : Event ι → Option ι
  | .passed => none
  | .began i _ | .acted i | .woke i | .dropped i | .answered i _ => some i

variable {ι : Type} [DecidableEq ι]

/-- The tasks with one of them changed. -/
def Pool.assign (s : Pool ι) (i : ι) (τ : Task) : ι → Task :=
  fun j => if j = i then τ else s.task j

/-- How many connections that were there an act of an operation drops. -/
def releases (op : Operation) (f : World → World) (w : World) : Nat :=
  if op.isClose ∧ w.connection.isSome ∧ (f w).connection = none then 1 else 0

/-- One step of a pool. -/
inductive Step (d : Dialer) : Pool ι → Event ι → Pool ι → Prop where
  | passed {s : Pool ι} {w : World} (hlock : w.lock = s.world.lock)
      (hconnection : w.connection = s.world.connection) : Step d s .passed { s with world := w }
  | began {s : Pool ι} {i : ι} (op : Operation) (h : (s.task i).rest = none) :
      Step d s (.began i op) { s with task := s.assign i ((s.task i).begun d op) }
  | acted {s : Pool ι} {i : ι} {op : Operation} {f : World → World} {next : World → Work Answer}
      (h : (s.task i).rest = some (op, .act f next)) :
      Step d s (.acted i)
        { world := f s.world
          task := s.assign i ((s.task i).acted d op f next s.world)
          connected := s.connected + (s.task i).dial.successes
          released := s.released + releases op f s.world }
  | woke {s : Pool ι} {i : ι} {op : Operation} {g : Guard} {drop : World → World}
      {next : Work Answer} (h : (s.task i).rest = some (op, .wait g drop next))
      (hholds : g.holds s.world = true) :
      Step d s (.woke i) { s with task := s.assign i ((s.task i).woken op next s.world) }
  | dropped {s : Pool ι} {i : ι} {op : Operation} {g : Guard} {drop : World → World}
      {next : Work Answer} (h : (s.task i).rest = some (op, .wait g drop next)) :
      Step d s (.dropped i)
        { s with world := drop s.world, task := s.assign i (s.task i).dropped }
  | answered {s : Pool ι} {i : ι} {op : Operation} {a : Answer}
      (h : (s.task i).rest = some (op, .done a)) :
      Step d s (.answered i a) { s with task := s.assign i (s.task i).answered }

/-- The pools that some order of steps leads to, from one in which nobody holds or wants the lock and
there is no connection. -/
inductive Reachable (d : Dialer) : Pool ι → Prop where
  | start {w : World} (hlock : w.lock = .free) (hconnection : w.connection = none) :
      Reachable d ⟨w, fun _ => .idle, 0, 0⟩
  | step {s s' : Pool ι} {e : Event ι} (hs : Reachable d s) (h : Step d s e s') : Reachable d s'

end Dialer

end CallChain
