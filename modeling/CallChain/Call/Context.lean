import CallChain.Work.Attempt

/-!
# Call contexts

A context carries what one call is known by and when it has to stop: a cancellation token, a deadline,
a request id, fields, and the span its log records belong to.  Contexts are derived from one another:
a derived context shares the token, its deadline is never later than that of the context it comes from,
and what is set on it does not reach back.
-/

set_option autoImplicit false

namespace CallChain

/-- What one call is known by and when it has to stop. -/
structure CallContext where
  token : Token
  deadline : Option Instant
  requestId : Option String
  fields : SortedMap String String
  span : Option LogFields

namespace CallContext

/-- The context of a token, without anything else. -/
def ofToken (t : Token) : CallContext := ⟨t, none, none, .empty, none⟩

/-- The context that stops at a time, or at its own deadline if that is earlier. -/
def withDeadline (c : CallContext) (t : Instant) : CallContext :=
  { c with
    deadline := match c.deadline with
      | some d => if d < t then some d else some t
      | none => some t }

/-- The context that stops after a length of time from now.  A time that the clock cannot name is a
panic. -/
def withTimeout (c : CallContext) (w : World) (d : Duration) : Except Panic CallContext :=
  if w.now + d.nanos ≤ Instant.last then .ok (c.withDeadline (w.now + d.nanos))
  else .error ⟨some "overflow when adding duration to instant"⟩

def withRequestId (c : CallContext) (id : String) : CallContext := { c with requestId := some id }

def withField (c : CallContext) (key value : String) : CallContext :=
  { c with fields := c.fields.insert key value }

def inSpan (c : CallContext) (span : LogFields) : CallContext := { c with span := some span }

/-- The time left before the deadline, if there is one. -/
def remaining (c : CallContext) (w : World) : Option Duration :=
  c.deadline.map fun d => ⟨d - w.now⟩

def isCancelled (c : CallContext) (w : World) : Bool := w.isCancelled c.token

def isExpired (c : CallContext) (w : World) : Bool :=
  match c.deadline with
  | some d => d ≤ w.now
  | none => false

def isDone (c : CallContext) (w : World) : Bool := c.isCancelled w || c.isExpired w

/-- What holds as soon as the call has to stop. -/
def doneGuard (c : CallContext) : Guard :=
  match c.deadline with
  | some d => .either (.cancelled c.token) (.reached d)
  | none => .cancelled c.token

def cancelledText : String := "context cancelled"

/-- The words for a call past its deadline. -/
def expiredText : String := "context deadline exceeded"

/-- Why the call has to stop, if it has; cancellation is named before the deadline. -/
def doneReason? (c : CallContext) (w : World) : Option String :=
  if c.isCancelled w then some cancelledText
  else if c.isExpired w then some expiredText
  else none

/-- Why the call has to stop, for a call that has to. -/
def reason (c : CallContext) (w : World) : String := (c.doneReason? w).getD cancelledText

/-- Whether somebody who waits for the end of the call goes on.  For a deadline that takes a timer, so
the call may have to stop a little before. -/
def isSignalled (c : CallContext) (w : World) : Bool := c.doneGuard.holds w

theorem isSignalled_eq (c : CallContext) (w : World) :
    c.isSignalled w = (c.isCancelled w || c.deadline.any fun d => d.tick ≤ w.ticks) := by
  unfold isSignalled doneGuard isCancelled
  cases c.deadline <;> simp [Guard.holds]

/-- Nobody is told to stop who does not have to. -/
theorem isDone_of_isSignalled {c : CallContext} {w : World} (h : c.isSignalled w = true) :
    c.isDone w = true := by
  rw [isSignalled_eq, Bool.or_eq_true] at h
  rw [isDone, Bool.or_eq_true]
  refine h.imp id fun hdeadline => ?_
  unfold isExpired
  cases hd : c.deadline with
  | none => simp [hd] at hdeadline
  | some d =>
    rw [hd, Option.any_some, decide_eq_true_eq, Instant.tick_le_iff] at hdeadline
    exact decide_eq_true (Nat.le_trans hdeadline w.clock.ticks_le_now)

/-- At a tick nobody is told to stop later than he has to. -/
theorem isSignalled_eq_isDone (c : CallContext) {w : World} (hw : w.OnTick) :
    c.isSignalled w = c.isDone w := by
  rw [isSignalled_eq, isDone, isExpired]
  congr 1
  cases c.deadline with
  | none => rfl
  | some d =>
    rw [Option.any_some, decide_eq_decide, Instant.tick_le_iff, ← Clock.now_of_onTick hw]

/-- The context as data at one moment, times in whole milliseconds. -/
def toJson (c : CallContext) (w : World) : Json :=
  let millis (t : Instant) : Json := .nat (t / 1000000)
  .ofEntries
    [("request_id", .orNull .string c.requestId), ("fields", .ofMap (c.fields.mapValues .string)),
      ("deadline_ms", .orNull millis c.deadline),
      ("remaining_ms", Duration.millisOrNull (c.remaining w)),
      ("cancelled", .bool (c.isCancelled w)), ("expired", .bool (c.isExpired w)),
      ("done", .bool (c.isDone w)), ("reason", .orNull .string (c.doneReason? w)),
      ("now_ms", millis w.now)]

end CallContext

end CallChain
