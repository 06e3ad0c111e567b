import CallChain.Proofs.Client.Limits
import CallChain.Proofs.Connection.Taking
import CallChain.Proofs.Fault.Registry

/-!
# The handler of a call

A call with a handler takes the connection and runs the handler against it, as long as its context lets it.
`Untaken` lists the ways in which there is no connection for the handler; the handler has no part in them.
`Handled` lists the ways in which a handler comes to its end that was started.  `ends_call_iff_course` says
that these are all the courses a call can take, whatever else happens while it waits.

So the handler is started once or not at all, and what the call comes back with is what its course came to:
a value as it is, and a fault with one more frame.
-/

set_option autoImplicit false

namespace CallChain.Client

variable {α : Type}

/-- What ends a call begun in the world: its context, from the place in line that the call takes. -/
def stopGuard (ctx : CallContext) (w : World) : Guard := .since w.nextPlace ctx.doneGuard

/-- The fault of a call whose context stopped it. -/
def stopFault (c : Client) (ctx : CallContext) (v : World) : Fault :=
  Fault.wrap c.settings.codes (c.settings.codes.site .handlerLate) Codes.rpcInvoke (ctx.reason v)

/-- The fault of a call whose handler took too long. -/
def limitFault (c : Client) (d : Duration) : Fault :=
  Fault.wrap c.settings.codes (c.settings.codes.site .handlerTimeout) Codes.rpcInvoke
    ("call timed out after " ++ d.text)

/-- Taking the connection for a handler. -/
def taking (c : Client) (ctx : CallContext) : Work Dialer.GetResult :=
  (c.settings.toDialer.get ctx.span).run

/-- The ways in which there is no connection for the handler, each with the panic or the fault. -/
inductive Untaken (R : Resumption) (c : Client) (ctx : CallContext) (w : World) :
    Except Panic Fault → World → Prop where
  /-- The end of the context was there before the call. -/
  | tooLate : ctx.isSignalled w = true →
      Untaken R c ctx w (.ok (c.stopFault ctx w.takePlace)) w.takePlace
  /-- The end of the context was there after a wait on the way to the connection. -/
  | overtaken {w₁ : World} : ctx.isSignalled w = false →
      (c.taking ctx).Dropped (R.raced (stopGuard ctx w)) (R.lost (stopGuard ctx w)) w.takePlace w₁ →
      Untaken R c ctx w (.ok (c.stopFault ctx w₁)) w₁
  /-- The dial failed. -/
  | undialed {f : Fault} {w₁ : World} : ctx.isSignalled w = false →
      Work.Ends (R.raced (stopGuard ctx w)) (c.taking ctx) w.takePlace (.ok (.error f)) w₁ →
      Untaken R c ctx w (.ok f) w₁
  | dialPanic {p : Panic} {w₁ : World} : ctx.isSignalled w = false →
      Work.Ends (R.raced (stopGuard ctx w)) (c.taking ctx) w.takePlace (.error p) w₁ →
      Untaken R c ctx w (.error p) w₁

/-- The ways in which a handler comes to its end that is started in `v`, in a call begun in `w`. -/
inductive Handled (R : Resumption) (c : Client) (ctx : CallContext) (w : World)
    (t : Attempt (Except Fault α)) (v : World) : Except Panic (Except Fault α) → World → Prop where
  /-- It had no limit and came to its own end. -/
  | unlimited {r : Except Panic (Except Fault α)} {v' : World} :
      ctx.capped w c.settings.timeout = none →
      Work.Ends (R.raced (stopGuard ctx w)) t.run v r v' → Handled R c ctx w t v r v'
  /-- It came to its own end within its limit. -/
  | inTime {d : Duration} {r : Except Panic (Except Fault α)} {v' : World} :
      ctx.capped w c.settings.timeout = some d →
      Work.Ends ((R.raced (stopGuard ctx w)).limited (v.timer d)) t.run v.takePlace r v' →
      Handled R c ctx w t v r v'
  /-- Its limit was there first. -/
  | timedOut {d : Duration} {v' : World} : ctx.capped w c.settings.timeout = some d →
      t.run.Dropped ((R.raced (stopGuard ctx w)).limited (v.timer d))
        ((R.raced (stopGuard ctx w)).late (v.timer d)) v.takePlace v' →
      Handled R c ctx w t v (.ok (.error (c.limitFault d))) v'
  /-- The end of the context was there after one of its waits. -/
  | overtaken {v' : World} :
      (Attempt.within (ctx.capped w c.settings.timeout) t).run.Dropped (R.raced (stopGuard ctx w))
        (R.lost (stopGuard ctx w)) v v' →
      Handled R c ctx w t v (.ok (.error (c.stopFault ctx v'))) v'

/-- What a call can do.  The connection is the one for which the handler is started, if it is. -/
inductive Course (R : Resumption) (c : Client) (ctx : CallContext)
    (handler : ConnectionId → Attempt (Except Fault α)) (w : World) :
    Option ConnectionId → Except Panic (Except Fault α) → World → Prop where
  | unstarted {x : Except Panic Fault} {w₁ : World} :
      Untaken R c ctx w x w₁ → Course R c ctx handler w none (x.map .error) w₁
  | started {conn : ConnectionId} {r : Except Panic (Except Fault α)} {v w₁ : World} :
      ctx.isSignalled w = false →
      Work.Ends (R.raced (stopGuard ctx w)) (c.taking ctx) w.takePlace (.ok (.ok conn)) v →
      Handled R c ctx w (handler conn) v r w₁ → Course R c ctx handler w (some conn) r w₁

variable {R : Resumption} {c : Client} {ctx : CallContext}
  {handler : ConnectionId → Attempt (Except Fault α)} {w w' : World}

/-- What a call makes of the time its handler was given. -/
def timeTaken (c : Client) (limit : Option Duration) :
    Except Panic (Option (Except Fault α)) → Except Panic (Except Fault α)
  | .error p => .error p
  | .ok (some r) => .ok r
  | .ok none => .ok (.error (c.limitFault (limit.getD .zero)))

/-- What a call does with what taking the connection came to. -/
def afterTaking (c : Client) (limit : Option Duration)
    (handler : ConnectionId → Attempt (Except Fault α)) :
    Dialer.GetResult → Work (Except Panic (Except Fault α))
  | .error p => .done (.error p)
  | .ok (.error f) => .done (.ok (.error f))
  | .ok (.ok conn) =>
    (Attempt.within limit (handler conn)).run.bind fun x => .done (c.timeTaken limit x)

theorem work_handle (c : Client) (ctx : CallContext) (limit : Option Duration)
    (handler : ConnectionId → Attempt (Except Fault α)) :
    (c.handle ctx limit handler).run = (c.taking ctx).bind (c.afterTaking limit handler) := by
  show Work.bind _ _ = Work.bind _ _
  congr 1
  funext r
  obtain p | f | conn := r
  · rfl
  · rfl
  · show Work.bind _ _ = Work.bind _ _
    congr 1
    funext x
    obtain _ | _ | _ := x <;> rfl

/-- A call is the race of its handler with its context, and what is made of it. -/
theorem ends_call_iff {o : Except Panic (Except Fault α)} :
    Work.Ends R (c.call ctx handler).run w o w' ↔
      ∃ x v, Work.Ends R (Attempt.unlessBefore ctx.doneGuard
          (c.handle ctx (ctx.capped w c.settings.timeout) handler)).run w x v ∧
        (o, w') = c.closed ctx x v := by
  have htree : (c.call ctx handler).run = .act id fun w =>
      (Attempt.unlessBefore ctx.doneGuard
        (c.handle ctx (ctx.capped w c.settings.timeout) handler)).run.bind fun x =>
          match x with
          | .error p => .done (.error p)
          | .ok (some (.ok a)) => .done (.ok (.ok a))
          | .ok (some (.error f)) =>
            .act (World.record (.logged ⟨.error, "call failed", [("code", .int f.code)], ctx.span⟩))
              fun _ => .done (.ok (.error
                (Fault.pushFrame c.settings.codes (c.settings.codes.site .callFails) f)))
          | .ok none => .act id fun v =>
            .act (World.record (.logged ⟨.error, "call failed",
                [("code", .int (c.stopFault ctx v).code)], ctx.span⟩))
              fun _ => .done (.ok (.error
                (Fault.pushFrame c.settings.codes (c.settings.codes.site .callFails)
                  (c.stopFault ctx v)))) := by
    show Work.act id _ = Work.act id _
    congr 1
    funext w
    show Work.bind (Attempt.unlessBefore ctx.doneGuard
      (c.handle ctx (ctx.capped w c.settings.timeout) handler)).run _ = Work.bind _ _
    congr 1
    funext x
    obtain _ | _ | _ | _ := x <;> rfl
  rw [htree, Work.ends_act_iff, Work.ends_bind_iff]
  refine exists_congr fun x => exists_congr fun v => and_congr_right fun _ => ?_
  obtain p | _ | f | a := x
  all_goals simp only [Work.ends_act_iff, Work.ends_done_iff, closed, concluded, Prod.mk.injEq, id]
  rfl

/-- What a call makes of how the race of its handler with its context ended. -/
def settled (c : Client) (ctx : CallContext) (x : Except Panic (Option (Except Fault α))) (v : World) :
    Except Panic (Except Fault α) :=
  match x with
  | .error p => .error p
  | .ok (some r) => .ok r
  | .ok none => .ok (.error (c.stopFault ctx v))

theorem closed_eq_settled (x : Except Panic (Option (Except Fault α))) (v : World) :
    c.closed ctx x v = c.closed ctx ((c.settled ctx x v).map some) v := by
  obtain _ | _ | _ := x <;> rfl

/-- A handler comes to its end as work within a limit does, in a race that is lost or not. -/
theorem handled_iff {t : Attempt (Except Fault α)} {r : Except Panic (Except Fault α)} {v v' : World} :
    Handled R c ctx w t v r v' ↔
      (∃ x, Work.Ends (R.raced (stopGuard ctx w))
          (Attempt.within (ctx.capped w c.settings.timeout) t).run v x v' ∧
        r = c.timeTaken (ctx.capped w c.settings.timeout) x) ∨
      ((Attempt.within (ctx.capped w c.settings.timeout) t).run.Dropped (R.raced (stopGuard ctx w))
          (R.lost (stopGuard ctx w)) v v' ∧
        r = .ok (.error (c.stopFault ctx v'))) := by
  have hown (limit : Option Duration) (r : Except Panic (Except Fault α)) :
      c.timeTaken limit (r.map some) = r := by
    obtain _ | _ := r <;> rfl
  constructor
  · intro h
    cases h with
    | unlimited hlimit h =>
      rw [hlimit]
      exact .inl ⟨_, Attempt.ends_within_none_iff.mpr ⟨_, h, rfl⟩, (hown none r).symm⟩
    | inTime hlimit h =>
      rw [hlimit]
      exact .inl ⟨_, Attempt.ends_within_some_iff.mpr (.inl ⟨_, h, rfl⟩), (hown _ r).symm⟩
    | timedOut hlimit h =>
      rw [hlimit]
      exact .inl ⟨_, Attempt.ends_within_some_iff.mpr (.inr ⟨h, rfl⟩), rfl⟩
    | overtaken h => exact .inr ⟨h, rfl⟩
  · rintro (⟨x, h, rfl⟩ | ⟨h, rfl⟩)
    · cases hlimit : ctx.capped w c.settings.timeout with
      | none =>
        rw [hlimit] at h
        obtain ⟨r, hends, rfl⟩ := Attempt.ends_within_none_iff.mp h
        rw [hown]
        exact .unlimited hlimit hends
      | some d =>
        rw [hlimit] at h
        obtain ⟨r, hends, rfl⟩ | ⟨hdropped, rfl⟩ := Attempt.ends_within_some_iff.mp h
        · rw [hown]
          exact .inTime hlimit hends
        · exact .timedOut hlimit hdropped
    · exact .overtaken h

/-- A race that is lost is lost on the way to the connection or in the handler. -/
theorem dropped_handle_iff :
    (c.handle ctx (ctx.capped w c.settings.timeout) handler).run.Dropped (R.raced (stopGuard ctx w))
        (R.lost (stopGuard ctx w)) w.takePlace w' ↔
      (c.taking ctx).Dropped (R.raced (stopGuard ctx w)) (R.lost (stopGuard ctx w)) w.takePlace w' ∨
        ∃ conn v, Work.Ends (R.raced (stopGuard ctx w)) (c.taking ctx) w.takePlace (.ok (.ok conn)) v ∧
          (Attempt.within (ctx.capped w c.settings.timeout) (handler conn)).run.Dropped
            (R.raced (stopGuard ctx w)) (R.lost (stopGuard ctx w)) v w' := by
  rw [work_handle, Work.dropped_bind_iff]
  refine or_congr_right ⟨?_, ?_⟩
  · rintro ⟨p | f | conn, v, htaking, h⟩
    · exact absurd h Work.not_dropped_done
    · exact absurd h Work.not_dropped_done
    · obtain h | ⟨x, v', -, h⟩ := Work.dropped_bind_iff.mp h
      · exact ⟨conn, v, htaking, h⟩
      · exact absurd h Work.not_dropped_done
  · rintro ⟨conn, v, htaking, h⟩
    exact ⟨_, v, htaking, Work.dropped_bind_iff.mpr (.inl h)⟩

/-- A race that is not lost is one for the connection, followed by one of the handler. -/
theorem ends_raced_handle_iff {r : Except Panic (Except Fault α)} :
    Work.Ends (R.raced (stopGuard ctx w))
        (c.handle ctx (ctx.capped w c.settings.timeout) handler).run w.takePlace r w' ↔
      ∃ got v, Work.Ends (R.raced (stopGuard ctx w)) (c.taking ctx) w.takePlace got v ∧
        match got with
        | .error p => r = .error p ∧ w' = v
        | .ok (.error f) => r = .ok (.error f) ∧ w' = v
        | .ok (.ok conn) => ∃ x, Work.Ends (R.raced (stopGuard ctx w))
            (Attempt.within (ctx.capped w c.settings.timeout) (handler conn)).run v x w' ∧
          r = c.timeTaken (ctx.capped w c.settings.timeout) x := by
  rw [work_handle, Work.ends_bind_iff]
  refine exists_congr fun got => exists_congr fun v => and_congr_right fun _ => ?_
  obtain p | f | conn := got
  · exact Work.ends_done_iff
  · exact Work.ends_done_iff
  · rw [afterTaking, Work.ends_bind_iff]
    simp only [Work.ends_done_iff]
    constructor
    · rintro ⟨x, v', h, rfl, rfl⟩
      exact ⟨x, h, rfl⟩
    · rintro ⟨x, h, rfl⟩
      exact ⟨x, w', h, rfl, rfl⟩

/-- The race of a handler with its context takes one of the courses. -/
theorem exists_course_iff {r : Except Panic (Except Fault α)} :
    (∃ s, Course R c ctx handler w s r w') ↔
      ∃ x, Work.Ends R (Attempt.unlessBefore ctx.doneGuard
          (c.handle ctx (ctx.capped w c.settings.timeout) handler)).run w x w' ∧
        r = c.settled ctx x w' := by
  simp only [Exchange.ends_unlessBefore_iff]
  constructor
  · rintro ⟨s, h⟩
    cases h with
    | unstarted h =>
      cases h with
      | tooLate hdone => exact ⟨_, .inl ⟨hdone, rfl, rfl⟩, rfl⟩
      | overtaken hdone h =>
        exact ⟨_, .inr ⟨hdone, none,
          Work.ends_interruptedBy_none_iff.mpr (dropped_handle_iff.mpr (.inl h)), rfl⟩, rfl⟩
      | undialed hdone h =>
        exact ⟨_, .inr ⟨hdone, some _,
          Work.ends_interruptedBy_iff.mpr (ends_raced_handle_iff.mpr ⟨_, _, h, rfl, rfl⟩), rfl⟩, rfl⟩
      | dialPanic hdone h =>
        exact ⟨_, .inr ⟨hdone, some _,
          Work.ends_interruptedBy_iff.mpr (ends_raced_handle_iff.mpr ⟨_, _, h, rfl, rfl⟩), rfl⟩, rfl⟩
    | started hdone htaking h =>
      obtain ⟨x, hends, rfl⟩ | ⟨hdropped, rfl⟩ := handled_iff.mp h
      · refine ⟨_, .inr ⟨hdone, some _, Work.ends_interruptedBy_iff.mpr
          (ends_raced_handle_iff.mpr ⟨_, _, htaking, x, hends, rfl⟩), rfl⟩, ?_⟩
        obtain _ | _ | _ := x <;> rfl
      · exact ⟨_, .inr ⟨hdone, none, Work.ends_interruptedBy_none_iff.mpr
          (dropped_handle_iff.mpr (.inr ⟨_, _, htaking, hdropped⟩)), rfl⟩, rfl⟩
  · rintro ⟨_, ⟨hdone, rfl, rfl⟩ | ⟨hdone, y, h, rfl⟩, rfl⟩
    · exact ⟨none, .unstarted (.tooLate hdone)⟩
    cases y with
    | none =>
      obtain h | ⟨conn, v, htaking, h⟩ := dropped_handle_iff.mp (Work.ends_interruptedBy_none_iff.mp h)
      · exact ⟨none, .unstarted (.overtaken hdone h)⟩
      · exact ⟨_, .started hdone htaking (.overtaken h)⟩
    | some r =>
      have hsettled : c.settled ctx (Attempt.outcome (some r)) w' = r := by
        obtain _ | _ := r <;> rfl
      rw [hsettled]
      obtain ⟨p | f | conn, v, htaking, h⟩ := ends_raced_handle_iff.mp (Work.ends_interruptedBy_iff.mp h)
      · obtain ⟨rfl, rfl⟩ := h
        exact ⟨none, .unstarted (.dialPanic hdone htaking)⟩
      · obtain ⟨rfl, rfl⟩ := h
        exact ⟨none, .unstarted (.undialed hdone htaking)⟩
      · exact ⟨_, .started hdone htaking (handled_iff.mpr (.inl h))⟩

/-- A call can take its courses, and no others. -/
theorem ends_call_iff_course {o : Except Panic (Except Fault α)} :
    Work.Ends R (c.call ctx handler).run w o w' ↔
      ∃ s r w₁, Course R c ctx handler w s r w₁ ∧ (o, w') = c.closed ctx (r.map some) w₁ := by
  rw [ends_call_iff]
  constructor
  · rintro ⟨x, w₁, h, ho⟩
    obtain ⟨s, hcourse⟩ := exists_course_iff.mpr ⟨x, h, rfl⟩
    exact ⟨s, _, w₁, hcourse, ho.trans (closed_eq_settled x w₁)⟩
  · rintro ⟨s, r, w₁, hcourse, ho⟩
    obtain ⟨x, h, rfl⟩ := exists_course_iff.mp ⟨s, hcourse⟩
    exact ⟨x, w₁, h, ho.trans (closed_eq_settled x w₁).symm⟩

/-! ### What a call with a handler makes sure of -/

/-- The faults that a call makes itself, by their codes and descriptions. -/
inductive Own (R : Resumption) (c : Client) (ctx : CallContext) (w : World) (s : Option ConnectionId)
    (w₁ : World) : Int → String → Prop where
  /-- The connector failed to make a connection. -/
  | dial {e : TransportError} {v v' : World} : s = none →
      Work.Ends (R.raced (stopGuard ctx w))
        (c.settings.connector.connect c.settings.address c.settings.tls).run v (.ok (.error e)) v' →
      Own R c ctx w s w₁ Codes.clientGenerate e.message
  /-- A handler took longer than its limit. -/
  | timeout {conn : ConnectionId} {d : Duration} : s = some conn →
      ctx.capped w c.settings.timeout = some d →
      Own R c ctx w s w₁ Codes.rpcInvoke ("call timed out after " ++ d.text)
  /-- The end of the context was there. -/
  | context : Own R c ctx w s w₁ Codes.rpcInvoke (ctx.reason w₁)

/-- What a call sees to that begins in `w`, starts its handler for the connection `s` if there is one, comes
to `r` in `w₁`, and comes back with `o` in `w'`. -/
structure SafelyHandled (R : Resumption) (c : Client) (ctx : CallContext)
    (handler : ConnectionId → Attempt (Except Fault α)) (w : World) (s : Option ConnectionId)
    (r : Except Panic (Except Fault α)) (w₁ : World) (o : Except Panic (Except Fault α)) (w' : World) :
    Prop where
  /-- If the end of the context is there already, nothing is dialed and the handler is not started. -/
  tooLate : ctx.isSignalled w = true → s = none ∧ w'.dials = w.dials
  /-- At a tick, that is if the context is done. -/
  done : w.OnTick → ctx.isDone w = true → s = none ∧ w'.dials = w.dials
  /-- The handler is started with a connection that was taken without the end of the context being there
  after any wait on the way; it is not there then, unless the connector itself sees to that, and at a
  tick the context is not done.  From there on the call is one run of the handler. -/
  started : ∀ conn, s = some conn →
    ∃ v, Work.Ends (R.raced (stopGuard ctx w)) (c.taking ctx) w.takePlace (.ok (.ok conn)) v ∧
      ((c.settings.connector.connect c.settings.address c.settings.tls).run.Keeps
        (fun v => ctx.isSignalled v = false) →
          ctx.isSignalled v = false ∧ (v.OnTick → ctx.isDone v = false)) ∧
      Handled R c ctx w (handler conn) v r w₁
  /-- A handler that is not started has no part in what the call comes to. -/
  unstarted : s = none → ∃ x, Untaken R c ctx w x w₁ ∧ r = x.map .error
  /-- If the end of the context is there after a wait on the way to the connection, the handler is not
  started. -/
  overtaken : R.Single → ∀ v, (c.taking ctx).Dropped (R.raced (stopGuard ctx w))
    (R.lost (stopGuard ctx w)) w.takePlace v → s = none
  /-- If the dial fails, the handler is not started. -/
  undialed : R.Single → ∀ f v, Work.Ends (R.raced (stopGuard ctx w)) (c.taking ctx) w.takePlace
    (.ok (.error f)) v → s = none
  /-- The handler is asked for the one connection only: the call does the same with every handler that does
  the same for it, and with every handler at all if there is none. -/
  once : ∀ handler' : ConnectionId → Attempt (Except Fault α),
    (∀ conn, s = some conn → handler' conn = handler conn) → Course R c ctx handler' w s r w₁
  /-- A value comes back as it is. -/
  value : ∀ a, r = .ok (.ok a) → o = .ok (.ok a) ∧ w' = w₁
  /-- A fault comes back with its code and description and one more frame.  It is the handler's, or one that
  the call makes itself, and then it has two frames. -/
  fault : ∀ f, r = .ok (.error f) → ∃ e, o = .ok (.error e) ∧
    w' = w₁.record (.logged ⟨.error, "call failed", [("code", .int f.code)], ctx.span⟩) ∧
    e.coder = f.coder ∧ e.description = f.description ∧
    e.stack = f.stack ++ [c.settings.codes.stamp .callFails f.code] ∧
    ((∃ conn S v v', s = some conn ∧ Work.Ends S (handler conn).run v (.ok (.error f)) v') ∨
      (Own R c ctx w s w₁ e.code e.description ∧ e.stack.length = 2))
  /-- A panic passes. -/
  panic : ∀ p, r = .error p → o = .error p ∧ w' = w₁

section

variable {s : Option ConnectionId} {r : Except Panic (Except Fault α)} {w₁ : World}

/-- A call does nothing if the end of its context is there before it begins. -/
theorem Course.of_signalled (h : Course R c ctx handler w s r w₁) (hdone : ctx.isSignalled w = true) :
    s = none ∧ r = .ok (.error (c.stopFault ctx w₁)) ∧ w₁ = w.takePlace := by
  have hnot {P : Prop} (h : ctx.isSignalled w = false) : P := by
    rw [hdone] at h
    cases h
  cases h with
  | unstarted h =>
    cases h with
    | tooLate => exact ⟨rfl, rfl, rfl⟩
    | overtaken h | undialed h | dialPanic h => exact hnot h
  | started h => exact hnot h

/-- The end of the context is not there when the handler starts, unless the connector sees to that. -/
theorem not_signalled_of_taken {conn : ConnectionId} {v : World} (hdone : ctx.isSignalled w = false)
    (h : Work.Ends (R.raced (stopGuard ctx w)) (c.taking ctx) w.takePlace (.ok (.ok conn)) v)
    (hconnect : (c.settings.connector.connect c.settings.address c.settings.tls).run.Keeps
      fun v => ctx.isSignalled v = false) : ctx.isSignalled v = false := by
  have hsame (v v' : World) (hclock : v'.clock = v.clock) (hcancelled : v'.cancelled = v.cancelled)
      (h : ctx.isSignalled v = false) : ctx.isSignalled v' = false := by
    rw [CallContext.isSignalled_eq, CallContext.isCancelled, World.isCancelled, World.ticks] at h ⊢
    rw [hclock, hcancelled]
    exact h
  have hkeeps : (c.taking ctx).Keeps fun v => ctx.isSignalled v = false :=
    Dialer.keeps_get hsame hconnect ctx.span
  refine hkeeps.of_ends (fun g v v₁ hv hr => ?_) h (hsame w _ rfl rfl hdone)
  unfold Resumption.raced at hr
  split at hr
  · rwa [hr]
  · exact hr.2

/-- The handler is started for a connection that was taken, and run once. -/
theorem Course.exists_taken {conn : ConnectionId} (h : Course R c ctx handler w (some conn) r w₁) :
    ctx.isSignalled w = false ∧
      ∃ v, Work.Ends (R.raced (stopGuard ctx w)) (c.taking ctx) w.takePlace (.ok (.ok conn)) v ∧
        Handled R c ctx w (handler conn) v r w₁ := by
  cases h with
  | started hdone htaking hhandled => exact ⟨hdone, _, htaking, hhandled⟩

theorem Course.exists_untaken (h : Course R c ctx handler w none r w₁) :
    ∃ x, Untaken R c ctx w x w₁ ∧ r = x.map .error := by
  cases h with
  | unstarted huntaken => exact ⟨_, huntaken, rfl⟩

/-- What the handler does for other connections does not matter. -/
theorem Course.congr {handler' : ConnectionId → Attempt (Except Fault α)}
    (h : Course R c ctx handler w s r w₁)
    (hsame : ∀ conn, s = some conn → handler' conn = handler conn) :
    Course R c ctx handler' w s r w₁ := by
  cases h with
  | unstarted h => exact .unstarted h
  | started hdone htaking h =>
    rw [← hsame _ rfl] at h
    exact .started hdone htaking h

/-- A call fails with the fault of its handler, or with one of its own, which has one frame. -/
theorem Course.own_or_handlers (hbuilt : c.settings.codes.Built) {f : Fault}
    (h : Course R c ctx handler w s (.ok (.error f)) w₁) :
    (∃ conn S v v', s = some conn ∧ Work.Ends S (handler conn).run v (.ok (.error f)) v') ∨
      (Own R c ctx w s w₁ f.code f.description ∧ f.stack.length = 1) := by
  have hstop : (c.stopFault ctx w₁).code = Codes.rpcInvoke := hbuilt.code_lookup_base (by decide)
  have hlimit (d : Duration) : (c.limitFault d).code = Codes.rpcInvoke :=
    hbuilt.code_lookup_base (by decide)
  have hdial (e : TransportError) : (c.settings.toDialer.failure e).code = Codes.clientGenerate :=
    hbuilt.code_lookup_base (by decide)
  generalize hr : (.ok (.error f) : Except Panic (Except Fault α)) = r at h
  cases h with
  | unstarted h =>
    right
    cases h with
    | tooLate | overtaken =>
      cases hr
      rw [hstop]
      exact ⟨.context, rfl⟩
    | undialed hdone h =>
      cases hr
      obtain ⟨e, v, v', hconnect, rfl⟩ := Dialer.exists_failure_of_ends_get h
      rw [hdial]
      exact ⟨.dial rfl hconnect, rfl⟩
    | dialPanic => cases hr
  | started hdone htaking h =>
    cases h with
    | unlimited hnone h =>
      cases hr
      exact .inl ⟨_, _, _, _, rfl, h⟩
    | inTime hsome h =>
      cases hr
      exact .inl ⟨_, _, _, _, rfl, h⟩
    | timedOut hsome h =>
      cases hr
      rw [hlimit]
      exact .inr ⟨.timeout rfl hsome, rfl⟩
    | overtaken h =>
      cases hr
      rw [hstop]
      exact .inr ⟨.context, rfl⟩

/-- A call that does nothing dials nothing. -/
theorem Course.nothing_of_signalled (h : Course R c ctx handler w s r w₁)
    (hdone : ctx.isSignalled w = true) :
    s = none ∧ (c.closed ctx (r.map some) w₁).2.dials = w.dials := by
  obtain ⟨hs, rfl, rfl⟩ := h.of_signalled hdone
  refine ⟨hs, ?_⟩
  show (World.record (.logged _) _).dials = _
  rw [World.dials_record_logged]
  rfl

/-- Every course of a call is a safe one. -/
theorem Course.safelyHandled (hbuilt : c.settings.codes.Built) (h : Course R c ctx handler w s r w₁) :
    SafelyHandled R c ctx handler w s r w₁ (c.closed ctx (r.map some) w₁).1
      (c.closed ctx (r.map some) w₁).2 where
  tooLate := h.nothing_of_signalled
  done hw hdone := h.nothing_of_signalled (by rwa [ctx.isSignalled_eq_isDone hw])
  started conn hs := by
    subst hs
    obtain ⟨hdone, v, htaking, hhandled⟩ := h.exists_taken
    refine ⟨v, htaking, fun hconnect => ?_, hhandled⟩
    have hgoing := not_signalled_of_taken hdone htaking hconnect
    exact ⟨hgoing, fun hv => by rwa [← ctx.isSignalled_eq_isDone hv]⟩
  unstarted hs := by
    subst hs
    exact h.exists_untaken
  overtaken hR v hdropped := by
    refine Option.eq_none_iff_forall_ne_some.mpr fun conn hs => ?_
    subst hs
    obtain ⟨-, v', htaking, -⟩ := h.exists_taken
    exact hdropped.not_ends (hR.raced _) (fun _ _ _ _ => hR.not_raced_of_lost) htaking
  undialed hR f v hends := by
    refine Option.eq_none_iff_forall_ne_some.mpr fun conn hs => ?_
    subst hs
    obtain ⟨-, v', htaking, -⟩ := h.exists_taken
    cases (hends.unique (hR.raced _) htaking).1
  once handler' hsame := h.congr hsame
  value a hr := by
    subst hr
    exact ⟨rfl, rfl⟩
  fault f hr := by
    subst hr
    refine ⟨_, rfl, rfl, rfl, rfl, rfl, ?_⟩
    refine (h.own_or_handlers hbuilt).imp id fun ⟨hown, hlength⟩ => ⟨hown, ?_⟩
    show (f.stack ++ _).length = 2
    rw [List.length_append, hlength]
    rfl
  panic p hr := by
    subst hr
    exact ⟨rfl, rfl⟩

end

/-- A call with a handler does nothing but its courses, every course is one that it can take, and each of
them is safe. -/
theorem call_safelyHandled (hbuilt : c.settings.codes.Built) (R : Resumption) (ctx : CallContext)
    (handler : ConnectionId → Attempt (Except Fault α)) (w : World) :
    (∀ o w', Work.Ends R (c.call ctx handler).run w o w' → ∃ s r w₁,
      Course R c ctx handler w s r w₁ ∧ SafelyHandled R c ctx handler w s r w₁ o w') ∧
    ∀ s r w₁, Course R c ctx handler w s r w₁ → ∃ o w',
      Work.Ends R (c.call ctx handler).run w o w' ∧ SafelyHandled R c ctx handler w s r w₁ o w' := by
  constructor
  · intro o w' h
    obtain ⟨s, r, w₁, hcourse, ho⟩ := ends_call_iff_course.mp h
    obtain ⟨rfl, rfl⟩ := Prod.mk.inj ho
    exact ⟨s, r, w₁, hcourse, hcourse.safelyHandled hbuilt⟩
  · intro s r w₁ hcourse
    exact ⟨_, _, ends_call_iff_course.mpr ⟨s, r, w₁, hcourse, rfl⟩, hcourse.safelyHandled hbuilt⟩

/-- A remote side that takes five milliseconds to dial. -/
def slowToDial : ScriptedRemote := { ScriptedRemote.ok with connectDelay := some (.ofMillis 5) }

/-- A context that is done after three milliseconds. -/
def shortLived : CallContext := (CallContext.ofToken ⟨[0]⟩).withDeadline 3000000

/-- A call whose context is done during its dial does not start its handler and fails with two frames. -/
theorem call_safelyHandled_overtaken :
    ∃ r w₁ e w',
      Work.Ends Work.alone ((scripted slowToDial []).call shortLived napping).run World.initial
        (.ok (.error e)) w' ∧
      SafelyHandled Work.alone (scripted slowToDial []) shortLived napping World.initial none r w₁
        (.ok (.error e)) w' ∧
      w'.clock = .atTick 3 ∧ e.stack.length = 2 := by
  obtain ⟨e, w', hrun, hclock⟩ : ∃ e w',
      ((scripted slowToDial []).call shortLived napping).run.run World.initial =
        some (.ok (.error e), w') ∧ w'.clock = .atTick 3 := ⟨_, _, rfl, by decide +kernel⟩
  have hends := Work.run_eq_some_iff.mp hrun
  obtain ⟨s, r, w₁, -, hsafe⟩ :=
    (call_safelyHandled (.new _) Work.alone shortLived napping World.initial).1 _ _ hends
  obtain ⟨v, hlost⟩ : ∃ v, (((scripted slowToDial []).taking shortLived).interruptedBy
      (stopGuard shortLived World.initial)).run World.initial.takePlace = some (none, v) := ⟨_, rfl⟩
  obtain rfl := hsafe.overtaken Work.alone_single v
    (Work.ends_interruptedBy_none_iff.mp (Work.run_eq_some_iff.mp hlost))
  refine ⟨r, w₁, e, w', hends, hsafe, hclock, ?_⟩
  obtain p | f | a := r
  · cases (hsafe.panic p rfl).1
  · obtain ⟨e', he, -, -, -, -, ⟨conn, -, -, -, hs, -⟩ | ⟨-, hlength⟩⟩ := hsafe.fault f rfl
    · cases hs
    · cases he
      exact hlength
  · cases (hsafe.value a rfl).1

end CallChain.Client
