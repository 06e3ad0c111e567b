import CallChain.Work.World

/-!
# The world without its log

Log records are the part of the journal that no call looks at again.  `World.quiet` leaves them out, and
two worlds that are equal without them are equal in everything that a call can meet: the clock, the
tokens, the lock, the connection, the requests that were handed over.
-/

set_option autoImplicit false

namespace CallChain

/-- Whether an event is a log record. -/
def Event.isLog : Event → Bool
  | .logged _ => true
  | _ => false

namespace World

/-- The world without the log records in its journal. -/
def quiet (w : World) : World := { w with journal := w.journal.filter fun e => !e.isLog }

@[simp] theorem quiet_quiet (w : World) : w.quiet.quiet = w.quiet := by
  simp [quiet]

@[simp] theorem quiet_record_logged (w : World) (r : LogRecord) :
    (w.record (.logged r)).quiet = w.quiet := by
  simp [quiet, record, Event.isLog]

/-- Log records are no requests. -/
@[simp] theorem requests_quiet (w : World) : w.quiet.requests = w.requests := by
  simp only [requests, quiet, List.filterMap_filter]
  congr 1
  funext e
  cases e <;> rfl

/-- Nor are they dials that got through. -/
@[simp] theorem reached_quiet (w : World) : w.quiet.reached = w.reached := by
  simp only [reached, quiet, List.filter_filter]
  congr 2
  funext e
  cases e <;> rfl

/-- Nor are they dials at all. -/
@[simp] theorem dials_quiet (w : World) : w.quiet.dials = w.dials := by
  simp only [dials, quiet, List.filter_filter]
  congr 2
  funext e
  cases e <;> rfl

/-- Only handing a request over adds to the requests. -/
theorem requests_record {e : Event} (he : ∀ q, e ≠ .handed q) (w : World) :
    (w.record e).requests = w.requests := by
  cases e with
  | handed q => exact absurd rfl (he q)
  | dialed | reached | answered | noted | logged => simp [record, requests]

theorem requests_record_handed (q : TransportRequest) (w : World) :
    (w.record (.handed q)).requests = w.requests ++ [q] := by
  simp [record, requests]

/-- Work that forgets the last panic leaves the rest of the quiet world alone. -/
theorem quiet_forget_site (w : World) :
    { w with panicSite := none }.quiet = { w.quiet with panicSite := none } := rfl

end World

end CallChain
