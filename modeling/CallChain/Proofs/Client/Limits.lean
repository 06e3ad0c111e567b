import CallChain.Proofs.Call.CutOff
import CallChain.Proofs.Chain.Course
import CallChain.Proofs.Client.Timing

/-!
# The limits of the two entry points

A handler of the caller and a request of the client are cut off by the timeout of the client and by the
deadline of the context.  The two entry points do this on their own, and agree but for a timeout of
zero: it means no timeout to a request, and leaves no time to a handler.
-/

set_option autoImplicit false

namespace CallChain

open Exchange (Readied SendResult Timetable Transfer conclusion)

/-- A world in which work of the given length has the connection at once and is not cancelled. -/
structure World.Calm (w : World) (token : Token) (n : Nat) (conn : ConnectionId) : Prop where
  connection : w.connection = some conn
  idle : w.lock.Idle
  ahead : w.Ahead
  later : ∀ t, w.due? token = some t → w.ticks + n < t

theorem World.Undisturbed.calm {w w' : World} {token : Token} {n : Nat} {conn : ConnectionId}
    (h : w.Undisturbed w') (hcalm : w.Calm token n conn) : w'.Calm token n conn where
  connection := h.connection.trans hcalm.connection
  idle := h.lock ▸ hcalm.idle
  ahead := h.ahead hcalm.ahead
  later t ht := by
    rw [h.due?] at ht
    rw [h.ticks]
    exact hcalm.later t ht

namespace Client

section

variable {α : Type} {c : Client} {ctx : CallContext} {w : World} {n : Nat} {conn : ConnectionId}
  {handler : ConnectionId → Attempt (Except Fault α)}
  {outcomes : Except Panic (Except Fault α) → Prop}

/-- What a call makes of what its handler came to. -/
def concluded (c : Client) (ctx : CallContext) (v : World) :
    Except Fault α → Except Panic (Except Fault α) × World
  | .ok a => (.ok (.ok a), v)
  | .error f =>
    (.ok (.error (Fault.pushFrame c.settings.codes (c.settings.codes.site .callFails) f)),
      v.record (.logged ⟨.error, "call failed", [("code", .int f.code)], ctx.span⟩))

/-- What a call makes of how the race of its handler with its context ended. -/
def closed (c : Client) (ctx : CallContext) (x : Except Panic (Option (Except Fault α)))
    (v : World) : Except Panic (Except Fault α) × World :=
  match x with
  | .ok (some r) => c.concluded ctx v r
  | .ok none =>
    c.concluded ctx v
      (.error (Fault.wrap c.settings.codes (c.settings.codes.site .handlerLate) Codes.rpcInvoke
        (ctx.reason v)))
  | .error p => (.error p, v)

/-- A call runs the race of its handler with its context. -/
theorem run_call (c : Client) (ctx : CallContext)
    (handler : ConnectionId → Attempt (Except Fault α)) (w : World) :
    (c.call ctx handler).run.run w =
      ((Attempt.unlessBefore ctx.doneGuard
        (c.handle ctx (ctx.capped w c.settings.timeout) handler)).run.run w).map fun x =>
          c.closed ctx x.1 x.2 := by
  show ((Attempt.unlessBefore ctx.doneGuard
    (c.handle ctx (ctx.capped w c.settings.timeout) handler)).run.bind _).run w = _
  rw [Work.run_bind]
  generalize (Attempt.unlessBefore ctx.doneGuard
    (c.handle ctx (ctx.capped w c.settings.timeout) handler)).run.run w = ended
  obtain _ | ⟨_ | _ | _ | _, v⟩ := ended <;> rfl

/-- Concluding a call takes no time and stops nothing. -/
theorem sameTime_closed (c : Client) (ctx : CallContext)
    (x : Except Panic (Option (Except Fault α))) (v : World) :
    v.SameTime (c.closed ctx x v).2 := by
  obtain _ | _ | _ | _ := x
  · exact .refl v
  · exact .record _ v
  · exact .record _ v
  · exact .refl v

/-- The faults of a handler that is cut off: by the deadline, or by its limit. -/
inductive Overdue (codes : CodeRegistry) (limit : Option Duration) : Fault → Prop where
  | expired :
      Overdue codes limit
        (Fault.wrap codes (codes.site .handlerLate) Codes.rpcInvoke CallContext.expiredText)
  | timedOut {l : Duration} : limit = some l →
      Overdue codes limit
        (Fault.wrap codes (codes.site .handlerTimeout) Codes.rpcInvoke
          ("call timed out after " ++ l.text))

/-- A handler that has the connection at once takes its time or its limit. -/
theorem timely_handle (c : Client) (ctx : CallContext) (limit : Option Duration)
    (hw : w.OnTick) (hidle : w.lock.Idle) (hconn : w.connection = some conn)
    (hhandler : (handler conn).Takes n outcomes) :
    ∃ r w', (c.handle ctx limit handler).run.Timely w r w' ∧
      w'.ticks = w.ticks + Attempt.limited limit n ∧
      (((∀ l, limit = some l → n ≤ l.ticks) ∧ outcomes r) ∨
        ∃ l, limit = some l ∧ l.ticks < n ∧
          r = .ok (.error (Fault.wrap c.settings.codes (c.settings.codes.site .handlerTimeout)
            Codes.rpcInvoke
            ("call timed out after " ++ l.text)))) := by
  obtain ⟨w₁, hget, hticks₁⟩ : ∃ w₁, (c.settings.toDialer.get ctx.span).run.Timely w
      (.ok (.ok conn)) w₁ ∧ w₁.ticks = w.ticks :=
    Dialer.timely_get_kept hidle hconn
  obtain ⟨r, w', hwithin, hticks, hr⟩ := hhandler.limited limit w₁ (hget.onTick hw)
  rw [hticks₁] at hticks
  rcases hr with ⟨hlong, x, hx, rfl⟩ | ⟨l, rfl, hlt, rfl⟩
  · refine ⟨x, w', hget.bind (hwithin.bind ?_), hticks, .inl ⟨hlong, hx⟩⟩
    cases x <;> exact .done _ w'
  · exact ⟨_, w', hget.bind (hwithin.bind (.done _ w')), hticks, .inr ⟨l, rfl, hlt, rfl⟩⟩

/-- The race of a handler with the context ends at the cut-off, or when the handler does. -/
theorem race_endsBy (hcalm : w.Calm ctx.token n conn) (hgoing : ctx.isCancelled w = false)
    (hhandler : (handler conn).Takes n outcomes) :
    ∃ x v, (Attempt.unlessBefore ctx.doneGuard
        (c.handle ctx (ctx.capped w c.settings.timeout) handler)).run.run w = some (x, v) ∧
      EndsBy (ctx.cutOff? w c.settings.timeout n) (w.ticks + n)
        (fun x => (x = .ok none ∧ ctx.reason v = CallContext.expiredText) ∨
          ∃ l, ctx.capped w c.settings.timeout = some l ∧
            x = .ok (some (.error (Fault.wrap c.settings.codes (c.settings.codes.site .handlerTimeout)
              Codes.rpcInvoke
              ("call timed out after " ++ l.text)))))
        (fun x => ∃ r, outcomes r ∧ x = r.map some) v.clock x := by
  obtain ⟨r, w', hhandle, hticks, hr⟩ :=
    timely_handle c ctx (ctx.capped w c.settings.timeout) (w := w.takePlace) hcalm.ahead.onTick
      hcalm.idle hcalm.connection hhandler
  replace hticks : w'.ticks = w.ticks + Attempt.limited (ctx.capped w c.settings.timeout) n := hticks
  have hcutOff {t : Tick} (ht : ctx.stop? w = some t) (hle : t ≤ w'.ticks) :
      ctx.cutOff? w c.settings.timeout n = some (max w.ticks t) ∧
        ctx.stopReason w = CallContext.expiredText :=
    CallContext.cutOff?_of_stop? hgoing hcalm.later ht (hticks ▸ hle)
  have hdue {t : Tick} (hle : t ≤ w.ticks + n) : w.due? ctx.token ≠ some t :=
    fun h => absurd (hcalm.later t h) (Nat.not_lt_of_le hle)
  have hwithin : w'.ticks ≤ w.ticks + n := by
    rw [hticks]
    exact Nat.add_le_add_left (Attempt.limited_le _ n) w.ticks
  -- No cancellation is near, so what stops the handler from outside is the deadline.
  rcases Attempt.unlessBefore_cases hhandle hcalm.ahead (hdue (Nat.le_add_right _ _))
      (hdue hwithin) with
    ⟨hdone, hreason, hrun⟩ | ⟨t, v, ht, hlt, hle, hrun, hv, hreason⟩ | ⟨hin, hrun, -, hdone, -⟩
  · obtain ⟨t, ht, hle⟩ := CallContext.stop?_of_signalled hdone
    obtain ⟨hcut, hexpired⟩ := hcutOff ht (Nat.le_trans hle hhandle.ticks_le)
    rw [Nat.max_eq_left hle] at hcut
    refine ⟨_, _, hrun, ?_⟩
    rw [show w.takePlace.clock = .atTick w.ticks from hcalm.ahead.onTick.eq_atTick rfl]
    exact .cut hcut (.inl ⟨rfl, hreason.trans hexpired⟩)
  · obtain ⟨hcut, hexpired⟩ := hcutOff ht hle
    rw [Nat.max_eq_right (Nat.le_of_lt hlt)] at hcut
    refine ⟨_, v, hrun, ?_⟩
    rw [hv]
    exact .cut hcut (.inl ⟨rfl, hreason.trans hexpired⟩)
  · refine ⟨_, _, hrun, ?_⟩
    have hon : w'.OnTick := hhandle.onTick hcalm.ahead.onTick
    have hdeadline (d : Tick) (hd : ctx.deadlineTick? = some d) : w'.ticks < d :=
      CallContext.Allows.lt_deadline hin hhandle.ticks_le hd
    rcases hr with ⟨hlong, hx⟩ | ⟨l, hl, hlt, rfl⟩
    · rw [Attempt.limited_of_long hlong] at hticks
      rw [hticks] at hdeadline
      rw [hon.eq_atTick hticks]
      exact .completed (CallContext.cutOff?_of_none hlong hdeadline) ⟨r, hx, rfl⟩
    · rw [hl, Attempt.limited_of_short hlt] at hticks
      rw [hticks] at hdeadline
      rw [hon.eq_atTick hticks]
      exact .cut (CallContext.cutOff?_of_limit hcalm.ahead.onTick hl hlt hdeadline) (.inr ⟨l, hl, rfl⟩)

/-- A call of a handler is cut off by the timeout and the deadline, whichever comes first. -/
theorem call_endsBy (hcalm : w.Calm ctx.token n conn) (hgoing : ctx.isCancelled w = false)
    (hhandler : (handler conn).Takes n outcomes) :
    ∃ o w', (c.call ctx handler).run.run w = some (o, w') ∧
      EndsBy (ctx.cutOff? w c.settings.timeout n) (w.ticks + n)
        (fun o => ∃ f, Overdue c.settings.codes (ctx.capped w c.settings.timeout) f ∧
          o = .ok (.error (Fault.pushFrame c.settings.codes (c.settings.codes.site .callFails) f)))
        (fun o => ∃ r, outcomes r ∧
          o = r.map (Except.mapError
            (Fault.pushFrame c.settings.codes (c.settings.codes.site .callFails))))
        w'.clock o := by
  obtain ⟨x, v, hrun, hends⟩ := race_endsBy (c := c) hcalm hgoing hhandler
  refine ⟨(c.closed ctx x v).1, (c.closed ctx x v).2, ?_, ?_⟩
  · rw [run_call, hrun]
    rfl
  · rw [(sameTime_closed c ctx x v).clock]
    refine hends.imp ?_ ?_
    · rintro (⟨rfl, hreason⟩ | ⟨l, hl, rfl⟩)
      · refine ⟨_, .expired, ?_⟩
        rw [← hreason]
        rfl
      · exact ⟨_, .timedOut hl, rfl⟩
    · rintro ⟨r, hr, rfl⟩
      refine ⟨r, hr, ?_⟩
      obtain _ | _ | _ := r <;> rfl

end

end Client

namespace Exchange

variable {ρ : Type} {ctx : CallContext} {i : Invocation ρ} {w w₁ : World} {n : Nat}
  {conn : ConnectionId} {limit : Option Duration} {answers : TransportRequest → SendResult → Prop}

theorem sameTime_conclusion [Reply ρ] (noParse : Bool) (e : Departure ρ CallResult) :
    e.world.SameTime (e.andThen (conclusion noParse)).world := by
  rw [world_conclusion]
  exact .refl _

theorem failsWith_conclusion [Reply ρ] {codes : CodeRegistry} {g : CallFailure}
    {e : Departure ρ CallResult} (hcodes : e.invocation.codes = codes) (h : e.outcome = .ok (.error g))
    (noParse : Bool) : (e.andThen (conclusion noParse)).FailsWith codes g := by
  obtain ⟨o, i, v⟩ := e
  subst h
  exact ⟨hcodes, g, rfl, .refl g⟩

/-- The failures of a call that is cut off: by the deadline before or after its request goes out, or by
its limit. -/
inductive CutShort (codes : CodeRegistry) (limit : Option Duration) : CallFailure → Prop where
  | unsent :
      CutShort codes limit
        (.new (Fault.wrap codes (codes.site .connectionLate) Codes.httpError CallContext.expiredText))
  | expired : CutShort codes limit (Transfer.failure codes (.cancelled CallContext.expiredText))
  | timedOut {l : Duration} : limit = some l →
      CutShort codes limit (Transfer.failure codes (.timeout l))

/-- With the connection at hand, a fetch whose request is ready is cut off by the timeout and the
deadline, whichever comes first. -/
theorem Timetable.endsBy {t : Option Transfer} {o : Except Panic CallResult} {v : World}
    {p : Prepared} (h : Timetable ctx i w 0 n (· = .ok (.ok conn)) answers t o v)
    (hready : Readied ctx i w p w₁) (hgoing : ctx.isCancelled w₁ = false)
    (hkeeps : i.info.Keeps World.Undisturbed) (hw : w.OnTick)
    (hlater : ∀ c, w.due? ctx.token = some c → w.ticks + n < c)
    (hlimit : limitOf ctx i w = ctx.capped w limit) :
    EndsBy (ctx.cutOff? w limit n) (w.ticks + n)
      (fun o => ∃ g, CutShort i.codes (ctx.capped w limit) g ∧ o = .ok (.error g))
      (fun _ => ∃ p c r, t = some ⟨p, c, some (r.map some)⟩ ∧ answers p.request r) v.clock o := by
  have hsame := keeps_undisturbed hkeeps hready
  have hlater₁ (c : Tick) (hc : w₁.due? ctx.token = some c) : w.ticks + n < c := by
    rw [hsame.due?] at hc
    exact hlater c hc
  have hin {x : Nat} (h : ctx.Allows w₁ (w.ticks + x)) (d : Tick) (hd : ctx.deadlineTick? = some d) :
      w.ticks + x < d :=
    h.lt_deadline (hsame.ticks ▸ Nat.le_add_right _ _) hd
  -- With the connection at hand, three rows of the timetable are left beside that of a context done before.
  cases h with
  | unready h => exact absurd hready (not_readied_of_unready h)
  | done h ht hle hclock =>
    rw [hready.unique h] at ht
    obtain ⟨hcut, hexpired⟩ := CallContext.cutOff?_of_stop? hgoing hlater₁ ht
      (Nat.le_trans hle (Nat.le_add_right _ (Attempt.limited (ctx.capped w limit) n)))
    rw [Nat.max_eq_left hle] at hcut
    rw [hready.unique h, hexpired, hclock, hw.eq_atTick rfl]
    exact .cut hcut ⟨_, .unsent, rfl⟩
  | stopped _ _ hlt hle => exact absurd hle (Nat.not_le_of_lt hlt)
  | unconnected _ _ hgot | dialPanic _ _ hgot => cases hgot
  | cancelled h _ ht hlt hle hclock =>
    rw [hready.unique h] at ht
    rw [Nat.add_zero] at hlt
    rw [hlimit, Nat.add_zero] at hle
    obtain ⟨hcut, hexpired⟩ := CallContext.cutOff?_of_stop? hgoing hlater₁ ht hle
    rw [Nat.max_eq_right (Nat.le_of_lt hlt)] at hcut
    rw [hready.unique h, hexpired, hclock]
    exact .cut hcut ⟨_, .expired, rfl⟩
  | answered h _ hr hlong hallows hclock =>
    rw [hready.unique h] at hallows
    rw [hlimit] at hlong
    rw [hclock]
    exact .completed (CallContext.cutOff?_of_none hlong (hin hallows)) ⟨_, _, _, rfl, hr⟩
  | timedOut h _ hl hlt hallows hclock =>
    rw [hready.unique h] at hallows
    rw [hlimit] at hl
    rw [hclock]
    exact .cut (CallContext.cutOff?_of_limit hw hl hlt (hin hallows)) ⟨_, .timedOut hl, rfl⟩

/-- The connection at hand is taken at once. -/
theorem timely_get_at_hand (ctx : CallContext) (hidle : w.lock.Idle) (hconn : w.connection = some conn)
    (h : w.Undisturbed w₁) :
    ∃ r w', (i.client.toDialer.get ctx.span).run.Timely w₁.takePlace r w' ∧
      w'.ticks = w.ticks + 0 ∧ r = .ok (.ok conn) := by
  obtain ⟨w', hget, hticks⟩ : ∃ w', (i.client.toDialer.get ctx.span).run.Timely
      w₁.takePlace (.ok (.ok conn)) w' ∧ w'.ticks = w₁.ticks :=
    Dialer.timely_get_kept (h.lock ▸ hidle) (h.connection.trans hconn)
  exact ⟨_, w', hget, hticks.trans h.ticks, rfl⟩

/-- With the connection at hand, a fetch whose request is ready ends at the cut-off or in its time. -/
theorem exists_course_endsBy {p : Prepared} (hready : Readied ctx i w p w₁)
    (hgoing : ctx.isCancelled w₁ = false) (hkeeps : i.info.Keeps World.Undisturbed)
    (hcalm : w.Calm ctx.token n conn) (hlimit : limitOf ctx i w = ctx.capped w limit)
    (hsend : ∀ k q, (i.client.connector.send k q).Takes n (answers q)) :
    ∃ t e, Course Work.alone ctx i w t e ∧
      EndsBy (ctx.cutOff? w limit n) (w.ticks + n)
        (fun o => ∃ g, CutShort i.codes (ctx.capped w limit) g ∧ o = .ok (.error g))
        (fun _ => ∃ p c r, t = some ⟨p, c, some (r.map some)⟩ ∧ answers p.request r)
        e.world.clock e.outcome := by
  have hget (w₂ : World) (h : w.Undisturbed w₂) :=
    timely_get_at_hand (i := i) ctx hcalm.idle hcalm.connection h
  have hclear (t : Tick)
      (h : t ∈ [w.ticks, w.ticks + 0, w.ticks + 0 + Attempt.limited (limitOf ctx i w) n]) :
      w.due? ctx.token ≠ some t := by
    intro ht
    have hlt := hcalm.later t ht
    have hle := Attempt.limited_le (limitOf ctx i w) n
    simp only [List.mem_cons, List.not_mem_nil, or_false] at h
    unfold Tick at *
    omega
  obtain ⟨t, e, hcourse, hrow⟩ := exists_timetable hkeeps hcalm.ahead hget hclear hsend
  exact ⟨t, e, hcourse, hrow.endsBy hready hgoing hkeeps hcalm.ahead.onTick hcalm.later hlimit⟩

end Exchange

/-- Entering a chain disturbs nothing. -/
theorem Builtin.Entered.undisturbed {ρ : Type} {bs : List Builtin} {x y : Entrance ρ}
    (h : Entered bs x y) : x.world.Undisturbed y.world where
  clock := (congrArg World.clock h.world :)
  cancelled t ht := by
    unfold World.isCancelled at ht ⊢
    rw [show y.world.cancelled = x.world.cancelled from (congrArg World.cancelled h.world :)]
    exact ht
  agenda := (congrArg World.agenda h.world :)
  lock := (congrArg World.lock h.world :)
  connection := (congrArg World.connection h.world :)
  requests := by
    rw [← World.requests_quiet y.world, h.world]
    exact World.requests_quiet x.world
  dials := by
    rw [← World.dials_quiet y.world, h.world]
    exact World.dials_quiet x.world

namespace Client

variable {ρ : Type} {c : Client} {catalog : Catalog} {ctx : CallContext}
  {method target : String} {body : RequestBody} {reply : Option ρ} {options : List CallOption}
  {bs : List Builtin} {w w₁ : World} {n : Nat} {conn : ConnectionId} {p : Exchange.Prepared}
  {answers : TransportRequest → SendResult → Prop}

/-- What a call has at the center of its chain, if no stage refuses it. -/
def centerOf (c : Client) (catalog : Catalog) (ctx : CallContext) (method target : String)
    (body : RequestBody) (reply : Option ρ) (options : List CallOption) (bs : List Builtin)
    (w : World) : Entrance ρ :=
  Builtin.enterAll (Chain.passed c.skippers bs (c.invocationOf method target body reply options))
    (c.entranceOf catalog ctx method target body reply options w)

/-- Without a timeout of its own, a call has that of the client, if it is not zero. -/
theorem limitOf_entered {y : Entrance ρ}
    (h : Builtin.Entered bs (c.entranceOf catalog ctx method target body reply options w) y)
    (htimeout : (CallInfo.ofOptions (c.optionsOf options)).timeout = none) :
    Exchange.limitOf y.context y.invocation y.world =
      y.context.capped y.world (c.settings.timeout.filter fun l => !l.isZero) := by
  have hnone : y.invocation.info.timeout = none := by
    rw [h.info]
    exact htimeout
  unfold Exchange.limitOf
  rw [hnone, h.invocation]
  rfl

theorem entered_centerOf (c : Client) (catalog : Catalog) (ctx : CallContext)
    (method target : String) (body : RequestBody) (reply : Option ρ) (options : List CallOption)
    (bs : List Builtin) (w : World) :
    Builtin.Entered
      (Chain.passed c.skippers bs (c.invocationOf method target body reply options))
      (c.entranceOf catalog ctx method target body reply options w)
      (c.centerOf catalog ctx method target body reply options bs w) :=
  .enterAll _ _

/-- Entering the chain disturbs nothing, and the closures of the call are what they were. -/
theorem undisturbed_entered {y : Entrance ρ}
    (h : Builtin.Entered bs (c.entranceOf catalog ctx method target body reply options w) y)
    (hkeeps : (CallInfo.ofOptions (c.optionsOf options)).Keeps World.Undisturbed) :
    w.Undisturbed y.world ∧ y.invocation.info.Keeps World.Undisturbed := by
  refine ⟨(undisturbed_warned c catalog options w).trans h.undisturbed, ?_⟩
  rw [h.info]
  exact ⟨hkeeps.resolver, hkeeps.process⟩

variable [Reply ρ]

/-- A call through a chain is cut off by the timeout, if that is not zero, and the deadline, whichever
comes first. -/
theorem invoke_endsBy (hchain : c.HasChain catalog options bs)
    (hpasses : ¬ Chain.Refused c.skippers bs (c.invocationOf method target body reply options))
    (hready : Readied (c.centerOf catalog ctx method target body reply options bs w).context
      (c.centerOf catalog ctx method target body reply options bs w).invocation
      (c.centerOf catalog ctx method target body reply options bs w).world p w₁)
    (hgoing : ctx.isCancelled w₁ = false)
    (hkeeps : (CallInfo.ofOptions (c.optionsOf options)).Keeps World.Undisturbed)
    (htimeout : (CallInfo.ofOptions (c.optionsOf options)).timeout = none)
    (hcalm : w.Calm ctx.token n conn)
    (hsend : ∀ k q, (c.settings.connector.send k q).Takes n (answers q)) :
    ∃ o reply' w', (c.invoke catalog ctx method target body reply options).run w =
        some ((o, reply'), w') ∧
      EndsBy (ctx.cutOff? w (c.settings.timeout.filter fun l => !l.isZero) n) (w.ticks + n)
        (fun o => ∃ f g, Exchange.CutShort c.settings.codes
          (ctx.capped w (c.settings.timeout.filter fun l => !l.isZero)) g ∧
          f.Alike g ∧ o = .ok (.error f))
        (fun o => ∃ p k r, answers p.request r ∧
          carried? o = Transfer.received? ⟨p, k, some (r.map some)⟩)
        w'.clock o := by
  have hentered := entered_centerOf c catalog ctx method target body reply options bs w
  obtain ⟨hbefore, hkeeps'⟩ := undisturbed_entered hentered hkeeps
  have hcalm' := hbefore.calm hcalm
  rw [show ctx.token = _ from hentered.token.symm] at hcalm'
  obtain ⟨t, e, hcourse, hends⟩ := Exchange.exists_course_endsBy hready
    ((congrArg w₁.isCancelled hentered.token).trans hgoing) hkeeps' hcalm'
    (limitOf_entered hentered htimeout) (by rw [hentered.invocation]; exact hsend)
  have htrip := Chain.Trip.fetched hpasses rfl hcourse
  obtain ⟨w', hw', hquiet⟩ :=
    (ends_invoke_iff hchain).mpr ⟨_, Chain.endsFrom_iff_trip.mpr ⟨t, htrip⟩, rfl⟩
  -- No time passes on the way out, and a failure leaves as itself.
  have hafter : e.world.SameTime w'.quiet := by
    rw [hquiet]
    exact (Exchange.sameTime_conclusion _ e).trans (Builtin.sameTime_leaveAll _ _ _)
  have hcodes : e.invocation.codes = c.settings.codes := by
    rw [hcourse.invocation_eq, hentered.invocation]
    rfl
  refine ⟨_, _, w', Work.run_eq_some_iff.mpr hw', ?_⟩
  obtain ⟨hcutOff, hcapped⟩ := CallContext.cutOff?_congr hentered.deadline hbefore.clock
    (c.settings.timeout.filter fun l => !l.isZero) n
  rw [hcutOff, hcapped, hbefore.ticks] at hends
  rw [show w'.clock = e.world.clock from hafter.clock]
  refine hends.imp ?_ ?_
  · rintro ⟨g, hg, ho⟩
    obtain ⟨-, f, hf, halike⟩ :=
      Builtin.failsWith_leaveAll (Exchange.failsWith_conclusion hcodes ho _)
    rw [← hcourse.invocation_eq, hcodes] at hg
    exact ⟨f, g, hg, halike, hf⟩
  · rintro ⟨p, k, r, rfl, hr⟩
    exact ⟨p, k, r, hr, htrip.carried?_eq⟩

/-- A handler and a request that take the same time are cut off at the same instant or both in their own
time, unless the timeout of the client is zero: then a handler that takes time is cut off at once, and
a request by the deadline only.  A timeout or a deadline between two ticks cuts off at the later one. -/
theorem call_and_invoke_cutOff {α : Type} {handler : ConnectionId → Attempt (Except Fault α)}
    {outcomes : Except Panic (Except Fault α) → Prop}
    (hchain : c.HasChain catalog options bs)
    (hpasses : ¬ Chain.Refused c.skippers bs (c.invocationOf method target body reply options))
    (hready : Readied (c.centerOf catalog ctx method target body reply options bs w).context
      (c.centerOf catalog ctx method target body reply options bs w).invocation
      (c.centerOf catalog ctx method target body reply options bs w).world p w₁)
    (hgoing : ctx.isCancelled w₁ = false)
    (hkeeps : (CallInfo.ofOptions (c.optionsOf options)).Keeps World.Undisturbed)
    (htimeout : (CallInfo.ofOptions (c.optionsOf options)).timeout = none)
    (hcalm : w.Calm ctx.token n conn)
    (hsend : ∀ k q, (c.settings.connector.send k q).Takes n (answers q))
    (hhandler : (handler conn).Takes n outcomes) :
    (∃ o w', (c.call ctx handler).run.run w = some (o, w') ∧
      EndsBy (ctx.cutOff? w c.settings.timeout n) (w.ticks + n)
        (fun o => ∃ f, Overdue c.settings.codes (ctx.capped w c.settings.timeout) f ∧
          o = .ok (.error (Fault.pushFrame c.settings.codes (c.settings.codes.site .callFails) f)))
        (fun o => ∃ r, outcomes r ∧
          o = r.map (Except.mapError
            (Fault.pushFrame c.settings.codes (c.settings.codes.site .callFails))))
        w'.clock o) ∧
    (∃ o reply' w', (c.invoke catalog ctx method target body reply options).run w =
        some ((o, reply'), w') ∧
      EndsBy (ctx.cutOff? w (c.settings.timeout.filter fun l => !l.isZero) n) (w.ticks + n)
        (fun o => ∃ f g, Exchange.CutShort c.settings.codes
          (ctx.capped w (c.settings.timeout.filter fun l => !l.isZero)) g ∧
          f.Alike g ∧ o = .ok (.error f))
        (fun o => ∃ p k r, answers p.request r ∧
          carried? o = Transfer.received? ⟨p, k, some (r.map some)⟩)
        w'.clock o) ∧
    (ctx.cutOff? w c.settings.timeout n =
        ctx.cutOff? w (c.settings.timeout.filter fun l => !l.isZero) n ↔
      ¬ (c.settings.timeout = some .zero ∧ 0 < n ∧ ∀ d, ctx.deadline = some d → w.now < d)) := by
  obtain ⟨hbefore, hkeeps'⟩ := undisturbed_entered
    (entered_centerOf c catalog ctx method target body reply options bs w) hkeeps
  have hsame := hbefore.trans (Exchange.keeps_undisturbed hkeeps' hready)
  have hgoing' : ctx.isCancelled w = false := by
    refine Bool.eq_false_iff.mpr fun h => ?_
    rw [CallContext.isCancelled, hsame.cancelled _ h] at hgoing
    cases hgoing
  exact ⟨call_endsBy hcalm hgoing' hhandler,
    invoke_endsBy hchain hpasses hready hgoing hkeeps htimeout hcalm hsend,
    ctx.cutOff?_eq_cutOff?_filter_iff hcalm.ahead.onTick c.settings.timeout n⟩

/-- A remote side that takes five milliseconds to answer. -/
def leisurely : ScriptedRemote := { ScriptedRemote.ok with sendDelay := some (.ofMillis 5) }

/-- A handler that takes five milliseconds. -/
def napping (_ : ConnectionId) : Attempt (Except Fault Unit) := do
  Work.sleep (.ofMillis 5)
  return .ok ()

/-- A client of the leisurely remote side with a timeout, that keeps a log of its calls. -/
def timed (timeout : Duration) : Client :=
  { scripted leisurely [.accessLog] with
    settings := { (scripted leisurely [.accessLog]).settings with timeout := some timeout } }

/-- A world in which a connection is kept. -/
def connected : World := { World.initial with connection := some 0 }

theorem takes_leisurely (k : ConnectionId) (q : TransportRequest) :
    (leisurely.connector.send k q).Takes 5 fun r => r = .ok (.ok (.success .null)) := by
  have hpunctual : leisurely.connector.Punctual 0 5 leisurely.Dials
      fun _ r => r = .ok (.ok (.success .null)) :=
    ScriptedRemote.punctual (fun _ => .pure rfl) fun _ => rfl
  exact hpunctual.send k q

theorem takes_napping (k : ConnectionId) : (napping k).Takes 5 fun r => r = .ok (.ok ()) := by
  have hdone : (pure (.ok ()) : Attempt (Except Fault Unit)).Takes 0 fun r => r = .ok (.ok ()) :=
    .pure rfl
  exact Attempt.Takes.lift_bind (fun w hw => ⟨(), Work.timely_sleep (.ofMillis 5) hw⟩) fun _ => hdone

theorem calm_connected (token : Token) (n : Nat) : connected.Calm token n 0 :=
  ⟨rfl, ⟨rfl, rfl, rfl⟩, ⟨rfl, .nil, fun _ h => by cases h⟩, fun _ h => by cases h⟩

theorem hasChain_timed (timeout : Duration) :
    (timed timeout).HasChain .standard [] [.accessLog] :=
  @hasChain_scripted leisurely [.accessLog] [] rfl

theorem not_refused_timed (timeout : Duration) :
    ¬ Chain.Refused [] [.accessLog]
      ((timed timeout).invocationOf "GET" "/" .empty (none : Option Json) []) := by
  rintro ⟨-, b, hb, hrefuses⟩
  obtain rfl := List.mem_singleton.mp hb
  cases hrefuses.1

/-- The center of a call of the client with the timeout. -/
def timedCenter (timeout : Duration) : Entrance Json :=
  (timed timeout).centerOf .standard (.ofToken ⟨[0]⟩) "GET" "/" .empty none [] [.accessLog] connected

theorem keeps_timed : (CallInfo.ofOptions []).Keeps World.Undisturbed :=
  ⟨fun _ h => (by cases h), fun _ h => by cases h⟩

theorem readied_timed (timeout : Duration) :
    ∃ p w₁, Readied (timedCenter timeout).context (timedCenter timeout).invocation
      (timedCenter timeout).world p w₁ ∧ w₁.isCancelled ⟨[0]⟩ = false :=
  ⟨_, _, .intro rfl rfl rfl, rfl⟩

/-- With a timeout of three milliseconds, both are cut off after three milliseconds. -/
theorem call_and_invoke_cutOff_timed :
    (∃ o w', ((timed (.ofMillis 3)).call (.ofToken ⟨[0]⟩) napping).run.run connected =
        some (o, w') ∧ w'.clock = .atTick 3) ∧
      ∃ o reply' w', ((timed (.ofMillis 3)).invoke .standard (.ofToken ⟨[0]⟩) "GET" "/" .empty
        (none : Option Json) []).run connected = some ((o, reply'), w') ∧ w'.clock = .atTick 3 := by
  obtain ⟨p, w₁, hready, hgoing⟩ := readied_timed (.ofMillis 3)
  obtain ⟨⟨o, w', hcall, hends⟩, ⟨o', reply', w'', hinvoke, hends'⟩, -⟩ :=
    call_and_invoke_cutOff (hasChain_timed _) (not_refused_timed _) hready hgoing keeps_timed
      rfl (calm_connected _ _) takes_leisurely (takes_napping 0)
  exact ⟨⟨o, w', hcall, hends.eq_of_some.1⟩, o', reply', w'', hinvoke, hends'.eq_of_some.1⟩

/-- With a timeout of zero, the handler is cut off at once, and the request is answered in its time. -/
theorem call_cutOff_of_zero_timeout :
    (∃ f w', ((timed .zero).call (.ofToken ⟨[0]⟩) napping).run.run connected =
        some (.ok (.error f), w') ∧ w'.clock = .atTick 0) ∧
      ∃ o reply' w' response, ((timed .zero).invoke .standard (.ofToken ⟨[0]⟩) "GET" "/" .empty
        (none : Option Json) []).run connected = some ((o, reply'), w') ∧ w'.clock = .atTick 5 ∧
        carried? o = some response := by
  obtain ⟨p, w₁, hready, hgoing⟩ := readied_timed .zero
  obtain ⟨o, reply', w', hinvoke, hends⟩ :=
    invoke_endsBy (hasChain_timed _) (not_refused_timed _) hready hgoing keeps_timed rfl
      (calm_connected _ _) takes_leisurely
  obtain ⟨hclock, p, k, r, rfl, hcarried⟩ := hends.eq_of_none
  exact ⟨⟨_, _, rfl, rfl⟩, o, reply', w', _, hinvoke, hclock, hcarried⟩

end Client

end CallChain
