import CallChain.Tls.Settings
import CallChain.Transport.Message
import CallChain.Work.Lock

/-!
# The world calls run in

Everything that calls share: the clock, the tokens that were cancelled, the connection with its lock,
and a journal of what happened in order.  Nothing else can be seen by a later call.
-/

set_option autoImplicit false

namespace CallChain

/-- A cancellation token: its own number, then those of the tokens it was made from. -/
structure Token where
  lineage : List Nat
  deriving DecidableEq, Repr

/-- How much a log record matters. -/
inductive Level where
  | error
  | warn
  | info
  | debug
  deriving DecidableEq, Repr

namespace Level

def name : Level → String
  | .error => "ERROR"
  | .warn => "WARN"
  | .info => "INFO"
  | .debug => "DEBUG"

end Level

/-- The fields of a log record or of a span. -/
abbrev LogFields := List (String × Json)

/-- One log record, with the fields of the innermost span around it. -/
structure LogRecord where
  level : Level
  message : String
  fields : LogFields
  span : Option LogFields

/-- A connection, by the number of the dial that made it. -/
abbrev ConnectionId := Nat

/-- Something that happened. -/
inductive Event where
  | dialed (address : String) (mode : TlsMode)
  | reached
  | handed (request : TransportRequest)
  | answered
  | noted (value : Json)
  | logged (record : LogRecord)

/-- The request id of a number, in the form of a random UUID. -/
def RequestId.ofNumber (n : Nat) : String :=
  let digits := Nat.toDigits 16 n
  "00000000-0000-4000-8000-" ++ String.ofList (List.replicate (12 - digits.length) '0' ++ digits)

/-- What calls share. -/
structure World where
  /-- The clock with its timers. -/
  clock : Clock
  /-- The numbers of the cancelled tokens. -/
  cancelled : List Nat
  /-- The number of the next token. -/
  nextToken : Nat
  /-- The cancellations to come, soonest first. -/
  agenda : List (Tick × Token)
  /-- The next place in the line of those who wait. -/
  nextPlace : Nat
  /-- The lock of the connection. -/
  lock : Lock
  /-- The connection, once there is one. -/
  connection : Option ConnectionId
  /-- What happened, in order. -/
  journal : List Event
  /-- Where the last panic happened, if that was recorded and not yet looked at. -/
  panicSite : Option CallSite
  /-- The request ids there are to draw, in the order in which they are drawn. -/
  idSource : Nat → String
  /-- How many request ids were drawn. -/
  idsDrawn : Nat

namespace World

/-- The time. -/
abbrev now (w : World) : Instant := w.clock.now

/-- The last tick at which timers were looked at. -/
abbrev ticks (w : World) : Tick := w.clock.ticks

/-- Whether the time is that of the last tick. -/
abbrev OnTick (w : World) : Prop := w.clock.OnTick

/-- The world at the start, with a source that counts its request ids. -/
def initial : World := ⟨⟨0, 0⟩, [], 0, [], 0, .free, none, [], none, RequestId.ofNumber, 0⟩

/-- Whether a token, or one it was made from, was cancelled. -/
def isCancelled (w : World) (t : Token) : Bool := t.lineage.any w.cancelled.contains

/-- The world after a token was cancelled. -/
def cancel (t : Token) (w : World) : World :=
  match t.lineage with
  | [] => w
  | n :: _ => { w with cancelled := n :: w.cancelled }

/-- A new token made from another one, or from none. -/
def newToken (w : World) (parent : Option Token) : Token × World :=
  (⟨w.nextToken :: (parent.map Token.lineage).getD []⟩, { w with nextToken := w.nextToken + 1 })

/-- The request id that is drawn next. -/
def nextId (w : World) : String := w.idSource w.idsDrawn

/-- The world with one more place in line taken. -/
def takePlace (w : World) : World := { w with nextPlace := w.nextPlace + 1 }

/-- Puts a cancellation on the agenda, after those due at the same time. -/
def insertDue (due : Tick) (t : Token) : List (Tick × Token) → List (Tick × Token)
  | [] => [(due, t)]
  | (d, t') :: r => if due < d then (due, t) :: (d, t') :: r else (d, t') :: insertDue due t r

/-- The world in which a token will be cancelled at a time. -/
def cancelAt (due : Instant) (t : Token) (w : World) : World :=
  { w with agenda := insertDue due.tick t w.agenda }

/-- The world with one more event in the journal. -/
def record (e : Event) (w : World) : World := { w with journal := w.journal ++ [e] }

def dials (w : World) : Nat :=
  (w.journal.filter fun e => match e with | .dialed _ _ => true | _ => false).length

/-- How many dials got as far as the other side. -/
def reached (w : World) : Nat :=
  (w.journal.filter fun e => match e with | .reached => true | _ => false).length

/-- How many requests got as far as the other side. -/
def answered (w : World) : Nat :=
  (w.journal.filter fun e => match e with | .answered => true | _ => false).length

/-- The requests that were handed to a connection, in order. -/
def requests (w : World) : List TransportRequest :=
  w.journal.filterMap fun e => match e with | .handed r => some r | _ => none

/-- The world with the clock moved on, cancellations that fall due on the way carried out. -/
def moveTo (c : Clock) (w : World) : World :=
  { w with
    clock := c
    cancelled := (w.agenda.filter fun a => a.1 ≤ c.ticks).foldl
      (fun c a => match a.2.lineage with | [] => c | n :: _ => n :: c) w.cancelled
    agenda := w.agenda.filter fun a => c.ticks < a.1 }

/-- The world at a time. -/
def passTo (t : Instant) (w : World) : World := w.moveTo (w.clock.passTo t)

/-- The world at a tick. -/
def tickTo (k : Tick) (w : World) : World := w.moveTo (w.clock.tickTo k)

end World

end CallChain
