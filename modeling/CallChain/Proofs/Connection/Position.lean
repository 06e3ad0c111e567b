import CallChain.Proofs.Connection.Interleaving

/-!
# Where a task stands in an operation

The work of taking and of dropping the connection goes through few positions: it asks for the lock, waits
for it under a ticket, does something while it holds it, and gives the ticket back.  `Position.work` is what
is left of the work in each of them.  `work_act`, `work_wait` and `work_done` read a position off its work:
what it does to the world, and that the work left afterwards is that of the next position.  So these
positions are all there are.
-/

set_option autoImplicit false

namespace CallChain.Dialer

/-- The world with a request for the lock in the line. -/
def demand (writing : Bool) (w : World) : World := { w with lock := w.lock.request writing }

/-- The world with a ticket given back. -/
def release (n : Nat) (w : World) : World := { w with lock := w.lock.giveBack n }

/-- Tells a task what taking the connection came to. -/
def told (r : GetResult) : Work Answer := .done (.got r)

/-- Tells a task that the connection is dropped. -/
def toldClosed : Unit → Work Answer := fun _ => .done .closed

def lookUp : Work (Option ConnectionId) := Work.modifyGet fun w => (w.connection, w)

def forget : Work Unit := Work.modify fun w => { w with connection := none }

/-- What is left once the connection was looked up. -/
def afterLookUp (d : Dialer) (span : Option LogFields) : Option ConnectionId → Work Answer
  | some c => told (.ok (.ok c))
  | none => (d.dialUnlessKept span).run.bind told

/-- What is done while the lock is held for writing. -/
def lookOrDial (d : Dialer) (span : Option LogFields) : Work GetResult :=
  .act id fun w =>
    match w.connection with
    | some c => .done (.ok (.ok c))
    | none => (d.dial span).run

/-- What a task is told of a dial. -/
def outcomeOf (d : Dialer) : DialResult → GetResult
  | .ok (.ok c) => .ok (.ok c)
  | .ok (.error e) =>
    .ok (.error (Fault.wrapCause d.codes (d.codes.site .dialFails) Codes.clientGenerate
      (.other e.message)))
  | .error p => .error p

/-- The log record of a dial that failed. -/
def failureRecord (d : Dialer) (span : Option LogFields) : LogRecord :=
  ⟨.error, "dial failed", [("address", .string d.address)], span⟩

/-- What is left of a dial once the connector has answered. -/
def conclude (d : Dialer) (span : Option LogFields) (r : DialResult) : Work GetResult :=
  match r with
  | .ok (.ok c) => .act (fun w => { w with connection := some c }) fun _ => .done (d.outcomeOf r)
  | .ok (.error _) => .act (World.record (.logged (d.failureRecord span))) fun _ =>
      .done (d.outcomeOf r)
  | .error _ => .done (d.outcomeOf r)

/-- Where a task stands in an operation.  The number is the ticket it waits with or holds. -/
inductive Position where
  | askRead (span : Option LogFields)
  | awaitRead (span : Option LogFields) (n : Nat)
  | read (span : Option LogFields) (n : Nat)
  | leaveRead (span : Option LogFields) (n : Nat) (found : Option ConnectionId)
  | askWrite (span : Option LogFields)
  | awaitWrite (span : Option LogFields) (n : Nat)
  | look (span : Option LogFields) (n : Nat)
  | startDial (span : Option LogFields) (n : Nat)
  | dialing (span : Option LogFields) (n : Nat) (p : Work DialResult)
  | leaveWrite (n : Nat) (r : GetResult)
  | finished (r : GetResult)
  | askClose
  | awaitClose (n : Nat)
  | clear (n : Nat)
  | leaveClose (n : Nat)
  | closed

/-- What a task has to do with the lock. -/
inductive Claim where
  | none
  | waits (n : Nat) (writing : Bool)
  | holds (n : Nat) (writing : Bool)

namespace Position

variable {d : Dialer}

/-- What the position has to do with the lock. -/
def claim : Position → Claim
  | .awaitRead _ n => .waits n false
  | .awaitWrite _ n | .awaitClose n => .waits n true
  | .read _ n | .leaveRead _ n _ => .holds n false
  | .look _ n | .startDial _ n | .dialing _ n _ | .leaveWrite n _ | .clear n | .leaveClose n =>
    .holds n true
  | .askRead _ | .askWrite _ | .finished _ | .askClose | .closed => .none

/-- Whether the operation is one that drops the connection. -/
def isClose : Position → Bool
  | .askClose | .awaitClose _ | .clear _ | .leaveClose _ | .closed => true
  | _ => false

def work (d : Dialer) : Position → Work Answer
  | .askRead span => kept.bind (d.afterLookUp span)
  | .awaitRead span n =>
    .wait (.granted n) (release n) ((lookUp.guarded (release n)).bind (d.afterLookUp span))
  | .read span n => (lookUp.guarded (release n)).bind (d.afterLookUp span)
  | .leaveRead span n found => ((Work.done found).guarded (release n)).bind (d.afterLookUp span)
  | .askWrite span => (d.dialUnlessKept span).run.bind told
  | .awaitWrite span n =>
    .wait (.granted n) (release n) (((d.lookOrDial span).guarded (release n)).bind told)
  | .look span n => ((d.lookOrDial span).guarded (release n)).bind told
  | .startDial span n => ((d.dial span).run.guarded (release n)).bind told
  | .dialing span n p => ((p.bind (d.conclude span)).guarded (release n)).bind told
  | .leaveWrite n r => ((Work.done r).guarded (release n)).bind told
  | .finished r => told r
  | .askClose => close.bind toldClosed
  | .awaitClose n => .wait (.granted n) (release n) ((forget.guarded (release n)).bind toldClosed)
  | .clear n => (forget.guarded (release n)).bind toldClosed
  | .leaveClose n => ((Work.done ()).guarded (release n)).bind toldClosed
  | .closed => toldClosed ()

/-- What the position does to the world when it acts. -/
def change (d : Dialer) : Position → World → World
  | .askRead _ => demand false
  | .askWrite _ | .askClose => demand true
  | .leaveRead _ n _ | .leaveWrite n _ | .leaveClose n => release n
  | .startDial _ _ => World.record (.dialed d.address d.tls.mode)
  | .dialing _ _ (.act f _) => f
  | .dialing _ _ (.done (.ok (.ok c))) => fun w => { w with connection := some c }
  | .dialing span _ (.done (.ok (.error _))) => World.record (.logged (d.failureRecord span))
  | .dialing _ n (.done (.error _)) => release n
  | .clear _ => fun w => { w with connection := none }
  | _ => id

/-- The position after this one, which acts or goes on in a world. -/
def next (d : Dialer) (w : World) : Position → Position
  | .askRead span => .awaitRead span w.lock.nextTicket
  | .awaitRead span n => .read span n
  | .read span n => .leaveRead span n w.connection
  | .leaveRead _ _ (some c) => .finished (.ok (.ok c))
  | .leaveRead span _ none => .askWrite span
  | .askWrite span => .awaitWrite span w.lock.nextTicket
  | .awaitWrite span n => .look span n
  | .look span n =>
    match w.connection with
    | some c => .leaveWrite n (.ok (.ok c))
    | none => .startDial span n
  | .startDial span n => .dialing span n (d.connector.connect d.address d.tls).run
  | .dialing span n (.act _ next) => .dialing span n (next w)
  | .dialing span n (.wait _ _ next) => .dialing span n next
  | .dialing _ n (.done (.ok r)) => .leaveWrite n (d.outcomeOf (.ok r))
  | .dialing _ _ (.done (.error p)) => .finished (.error p)
  | .leaveWrite _ r => .finished r
  | .askClose => .awaitClose w.lock.nextTicket
  | .awaitClose n => .clear n
  | .clear n => .leaveClose n
  | .leaveClose _ => .closed
  | p => p

def first : Operation → Position
  | .get span => .askRead span
  | .close => .askClose

theorem isClose_first (op : Operation) : (first op).isClose = op.isClose := by
  cases op <;> rfl

/-- The work of an operation is that of its first position. -/
theorem work_first (op : Operation) : (first op).work d = op.work d := by
  cases op with
  | get span =>
    show kept.bind _ = ((kept.bind _).bind _).bind _
    rw [Work.bind_bind, Work.bind_bind]
    congr 1
    funext found
    cases found <;> rfl
  | close => rfl

theorem work_dialUnlessKept (span : Option LogFields) :
    (d.dialUnlessKept span).run = Work.holding true (d.lookOrDial span) := by
  show Work.holding true (.act id _) = Work.holding true (.act id _)
  congr 2

theorem work_dial (span : Option LogFields) :
    (d.dial span).run = .act (World.record (.dialed d.address d.tls.mode)) fun _ =>
      (d.connector.connect d.address d.tls).run.bind (d.conclude span) := by
  show Work.act _ _ = Work.act _ _
  congr 1
  funext w
  show (d.connector.connect d.address d.tls).run.bind _ = _
  congr 1
  funext r
  obtain p | e | c := r <;> rfl

/-- A position that acts does to the world what it says, and the next position is left. -/
theorem work_act {p : Position} {f : World → World} {rest : World → Work Answer}
    (h : p.work d = .act f rest) : f = p.change d ∧ ∀ w, rest w = (p.next d w).work d := by
  cases p with
  | askRead span =>
    cases h
    exact ⟨rfl, fun _ => rfl⟩
  | read span n =>
    cases h
    exact ⟨rfl, fun _ => rfl⟩
  | leaveRead span n found =>
    cases found with
    | none =>
      cases h
      exact ⟨rfl, fun _ => rfl⟩
    | some c =>
      cases h
      exact ⟨rfl, fun _ => rfl⟩
  | askWrite span =>
    simp only [work, work_dialUnlessKept] at h
    cases h
    exact ⟨rfl, fun _ => rfl⟩
  | look span n =>
    cases h
    refine ⟨rfl, fun w => ?_⟩
    simp only [next]
    cases w.connection <;> rfl
  | startDial span n =>
    simp only [work, work_dial] at h
    cases h
    exact ⟨rfl, fun _ => rfl⟩
  | dialing span n p =>
    cases p with
    | done r =>
      obtain p | e | c := r
      · cases h
        exact ⟨rfl, fun _ => rfl⟩
      · cases h
        exact ⟨rfl, fun _ => rfl⟩
      · cases h
        exact ⟨rfl, fun _ => rfl⟩
    | act f' next' =>
      cases h
      exact ⟨rfl, fun _ => rfl⟩
    | wait g drop next' => cases h
  | leaveWrite n r | askClose | clear n | leaveClose n =>
    cases h
    exact ⟨rfl, fun _ => rfl⟩
  | awaitRead span n | awaitWrite span n | finished r | awaitClose n | closed => cases h

/-- What a position waits for, and what it leaves behind when it is given up there. -/
inductive Waits : Position → Guard → (World → World) → Prop where
  | lock {p : Position} {n : Nat} {writing : Bool} (h : p.claim = .waits n writing) :
      Waits p (.granted n) (release n)
  | dial (span : Option LogFields) (n : Nat) (g : Guard) (drop : World → World)
      (q : Work DialResult) :
      Waits (.dialing span n (.wait g drop q)) g fun w => release n (drop w)

/-- A position that waits, waits for the lock or in its dial, and the next position is left. -/
theorem work_wait {p : Position} {g : Guard} {drop : World → World} {rest : Work Answer}
    (h : p.work d = .wait g drop rest) : Waits p g drop ∧ ∀ w, rest = (p.next d w).work d := by
  cases p with
  | awaitRead span n | awaitWrite span n | awaitClose n =>
    cases h
    exact ⟨.lock rfl, fun _ => rfl⟩
  | dialing span n p =>
    cases p with
    | wait g' drop' next' =>
      cases h
      exact ⟨.dial span n _ _ _, fun _ => rfl⟩
    | act f' next' => cases h
    | done r =>
      obtain p | e | c := r <;> cases h
  | leaveRead span n found => cases found <;> cases h
  | askRead span | askWrite span | read span n | look span n | startDial span n | leaveWrite n r
  | finished r | askClose | clear n | leaveClose n | closed => cases h

/-- A position with an answer is the last one. -/
theorem work_done {p : Position} {a : Answer} (h : p.work d = .done a) :
    (∃ r, p = .finished r ∧ a = .got r) ∨ (p = .closed ∧ a = .closed) := by
  cases p with
  | finished r =>
    cases h
    exact .inl ⟨r, rfl, rfl⟩
  | closed =>
    cases h
    exact .inr ⟨rfl, rfl⟩
  | dialing span n p =>
    cases p with
    | done r =>
      obtain p | e | c := r <;> cases h
    | act f' next' => cases h
    | wait g' drop' next' => cases h
  | leaveRead span n found => cases found <;> cases h
  | askRead span | askWrite span | awaitRead span n | awaitWrite span n | read span n | look span n
  | startDial span n | leaveWrite n r | askClose | awaitClose n | clear n | leaveClose n => cases h

end Position

end CallChain.Dialer
