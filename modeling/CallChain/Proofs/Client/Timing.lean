import CallChain.Proofs.Client.Description
import CallChain.Proofs.Exchange.Handed

/-!
# When a call ends, and how

A call without stages over a connection whose dials take one time and whose answers take another ends
as its timetable says.  It hands over one request at most, when it has the connection, and does neither
when its context is done.
-/

set_option autoImplicit false

namespace CallChain

open Exchange (SendResult Timetable Transfer conclusion limitOf)

/-- A connector whose dials and answers take the given numbers of ticks and come to results of the given
kinds.  Only sending hands over a request, and does so first of all. -/
structure Connector.Punctual (k : Connector) (d s : Nat) (dialed : Dialer.DialResult → Prop)
    (answers : TransportRequest → SendResult → Prop) : Prop where
  connect : ∀ address tls, (k.connect address tls).Takes d dialed
  send : ∀ c q, (k.send c q).Takes s (answers q)
  silent : ∀ address tls, (k.connect address tls).run.Traces World.requests fun qs _ => qs = []
  hands : ∀ c q, (k.send c q).run.HandsAtOnce q

namespace ScriptedRemote

/-- The ticks of a delay that may be missing. -/
def delay (d : Option Duration) : Nat := (d.map Duration.ticks).getD 0

/-- What dialing a scripted remote side comes to. -/
def Dials (r : ScriptedRemote) (x : Dialer.DialResult) : Prop :=
  match r.failure with
  | some reason => x = .ok (.error (.connect reason))
  | none => ∃ c, x = .ok (.ok c)

theorem timely_pause (d : Option Duration) (w : World) (hw : w.OnTick) :
    ∃ u w', (pause d).Timely w u w' ∧ w'.ticks = w.ticks + delay d := by
  cases d with
  | none => exact ⟨(), w, .done () w, rfl⟩
  | some d =>
    obtain ⟨w', h, hticks⟩ := Work.timely_sleep d hw
    exact ⟨(), w', h, hticks⟩

theorem timely_record (e : Event) (w : World) (_ : w.OnTick) :
    ∃ u w', (Work.record e).Timely w u w' ∧ w'.ticks = w.ticks + 0 :=
  ⟨(), _, .act (.record e w) (.done () _), rfl⟩

/-- A scripted remote side takes the times it says. -/
theorem punctual {r : ScriptedRemote} {answers : TransportRequest → SendResult → Prop}
    (htime : ∀ q, (r.handler q).Takes 0 (answers q))
    (hsilent : ∀ q, (r.handler q).run.Traces World.requests fun qs _ => qs = []) :
    r.connector.Punctual (delay r.connectDelay) (delay r.sendDelay) r.Dials answers where
  connect address tls := by
    have hafter : ∀ _ : Unit, (match r.failure with
        | some reason => pure (.error (.connect reason))
        | none => do return .ok (← Work.look).reached :
          Attempt (Except TransportError ConnectionId)).Takes 0 r.Dials := by
      intro _
      unfold Dials
      cases r.failure with
      | some reason => exact .pure rfl
      | none => exact fun w _ => ⟨_, w, .act (.refl w) (.done _ w), rfl, _, rfl⟩
    have h := Attempt.Takes.lift_bind (timely_record .reached) fun _ =>
      Attempt.Takes.lift_bind (timely_pause r.connectDelay) hafter
    rw [Nat.zero_add, Nat.add_zero] at h
    exact h
  send c q := by
    have h := Attempt.Takes.lift_bind (timely_record (.handed q)) fun _ =>
      Attempt.Takes.lift_bind (timely_pause r.sendDelay) fun _ => htime q
    rw [Nat.zero_add, Nat.add_zero] at h
    exact h
  silent := (handsOver hsilent).connect
  hands c q := by
    refine .record fun w => ?_
    exact Work.Traces.lift_bind (handsOver_pause r.sendDelay) fun _ _ h => by
      subst h
      exact hsilent q

end ScriptedRemote

namespace Client

variable {ρ : Type} [Reply ρ]

theorem handed_warn_bind {α : Type} {records : List LogRecord} {k : Work α} {w : World} :
    Work.handed (do
        for r in records do
          Work.record (.logged r)
        k) w =
      k.handed (records.foldl (fun w r => w.record (.logged r)) w) := by
  induction records generalizing w with
  | nil => simp only [List.forIn_nil, pure_bind, List.foldl_nil]
  | cons r rest ih =>
    simp only [List.forIn_cons, bind_assoc, pure_bind, List.foldl_cons]
    rw [← ih]
    show (Work.act (World.record (.logged r)) _).handed w = _
    rw [Work.handed, World.requests_record (fun _ h => by cases h), List.drop_length]
    rfl

omit [Reply ρ] in
theorem undisturbed_warned (c : Client) (catalog : Catalog) (options : List CallOption) (w : World) :
    w.Undisturbed (c.warned catalog options w) := by
  unfold warned
  generalize (c.chainFor catalog (c.optionsOf options)).2 = records
  induction records generalizing w with
  | nil => exact .refl w
  | cons r rest ih => exact (World.Undisturbed.logged w r).trans (ih _)

/-- A call without stages hands over what its exchange does. -/
theorem handed_invoke {c : Client} {catalog : Catalog} {options : List CallOption}
    (hchain : c.HasChain catalog options []) (ctx : CallContext) (method target : String)
    (body : RequestBody) (reply : Option ρ) (w : World) :
    (c.invoke catalog ctx method target body reply options).handed w =
      ((Exchange.run ctx : Call ρ CallResult).run.run
        (c.invocationOf method target body reply options)).handed (c.warned catalog options w) := by
  rw [work_invoke hchain, handed_warn_bind, Work.handed_bind, List.map_nil, Chain.run_nil]
  -- Nothing is handed over once the exchange has ended.
  unfold warned
  generalize Work.run _ (List.foldl _ w _) = r
  cases r <;> exact List.append_nil _

/-- A call without stages can end as a course of its fetch does. -/
theorem exists_run_of_course {c : Client} {catalog : Catalog} {ctx : CallContext}
    {method target : String} {body : RequestBody} {reply : Option ρ} {options : List CallOption}
    {w : World} {t : Option Transfer} {e : Departure ρ CallResult}
    (hchain : c.HasChain catalog options [])
    (hcourse : Exchange.Course Work.alone ctx (c.invocationOf method target body reply options)
      (c.warned catalog options w) t e) :
    ∃ reply' w', (c.invoke catalog ctx method target body reply options).run w =
        some (((e.andThen (conclusion
          (CallInfo.ofOptions (c.optionsOf options)).responseNotParse)).outcome, reply'), w') ∧
      w'.quiet = e.world := by
  have hcenter : Chain.EndsFrom Work.alone c.skippers []
      (c.entranceOf catalog ctx method target body reply options w)
      (e.andThen (conclusion (CallInfo.ofOptions (c.optionsOf options)).responseNotParse)) :=
    Chain.endsFrom_nil_iff.mpr
      (Exchange.ends_run_iff.mpr ⟨e, Exchange.ends_fetch_iff_course.mpr ⟨t, hcourse⟩, rfl⟩)
  obtain ⟨w', hends, hw'⟩ := (ends_invoke_iff hchain).mpr ⟨_, hcenter, rfl⟩
  exact ⟨_, w', Work.run_eq_some_iff.mpr hends, hw'.trans (Exchange.world_conclusion _ e)⟩

/-- What a call without stages hands over when its fetch has the connection at a known time. -/
theorem handed_of_course {c : Client} {catalog : Catalog} {ctx : CallContext}
    {method target : String} {body : RequestBody} {reply : Option ρ} {options : List CallOption}
    {w : World} {d s : Nat} {dialed : Dialer.DialResult → Prop}
    {answers : TransportRequest → SendResult → Prop} {t : Option Transfer}
    {e : Departure ρ CallResult} {T : Clock}
    (hchain : c.HasChain catalog options [])
    (hpunctual : c.settings.connector.Punctual d s dialed answers)
    (hkeeps : (CallInfo.ofOptions (c.optionsOf options)).Keeps World.Undisturbed)
    (hcourse : Exchange.Course Work.alone ctx (c.invocationOf method target body reply options)
      (c.warned catalog options w) t e)
    (hclock : ∀ p w₁ k w₂, Exchange.Readied ctx (c.invocationOf method target body reply options)
        (c.warned catalog options w) p w₁ →
      Work.Ends Work.alone (Exchange.taking ctx (c.invocationOf method target body reply options)).run
        w₁ (.ok (some (.ok k))) w₂ → w₂.clock = T) :
    (c.invoke catalog ctx method target body reply options).handed w =
      (t.map fun t => (T, t.prepared.request)).toList := by
  have hwatches : Exchange.Watches World.requests (fun q => [q])
      (c.invocationOf method target body reply options) :=
    watches_requests ⟨hpunctual.silent, fun k q => (hpunctual.hands k q).traces⟩
      ⟨fun a ha v => (hkeeps.resolver a ha v).requests,
        fun a ha q v => (hkeeps.process a ha q v).requests⟩
  rw [handed_invoke hchain]
  exact Exchange.handed_run hwatches hpunctual.hands hcourse hclock

/-- The time that a call of the client may take. -/
def limitFor (c : Client) (ctx : CallContext) (options : List CallOption) (w : World) :
    Option Duration :=
  Exchange.effectiveTimeout
    ((CallInfo.ofOptions (c.optionsOf options)).timeout.or c.settings.timeout) (ctx.remaining w)

/-- A call without stages that runs alone ends as the timetable says, with the response decoded.  It
hands over one request at most, at the time of the connection.  It does not outlive its deadline, and
hands over nothing once its context is done.  All of this goes from tick to tick: a deadline, a limit or
a delay between two ticks counts as the later one. -/
theorem invoke_timetable {c : Client} {catalog : Catalog} {ctx : CallContext}
    {method target : String} {body : RequestBody} {reply : Option ρ} {options : List CallOption}
    {w : World} {d s : Nat} {dialed : Dialer.DialResult → Prop}
    {answers : TransportRequest → SendResult → Prop}
    (hchain : c.HasChain catalog options [])
    (hpunctual : c.settings.connector.Punctual d s dialed answers)
    (hkeeps : (CallInfo.ofOptions (c.optionsOf options)).Keeps World.Undisturbed)
    (hidle : w.lock.Idle) (hahead : w.Ahead)
    (hclear : ∀ t ∈ [w.ticks, w.ticks + Dialer.waitFor w d,
        w.ticks + Dialer.waitFor w d + Attempt.limited (c.limitFor ctx options w) s],
      w.due? ctx.token ≠ some t) :
    ∃ (t : Option Transfer) (e : Departure ρ CallResult) (reply' : Option ρ) (w' : World),
      (c.invoke catalog ctx method target body reply options).run w =
        some (((e.andThen (conclusion
          (CallInfo.ofOptions (c.optionsOf options)).responseNotParse)).outcome, reply'), w') ∧
      Timetable ctx (c.invocationOf method target body reply options) (c.warned catalog options w)
        (Dialer.waitFor w d) s (c.settings.toDialer.Gets w dialed) answers t e.outcome w' ∧
      (c.invoke catalog ctx method target body reply options).handed w =
        (t.map fun t => (.atTick (w.ticks + Dialer.waitFor w d), t.prepared.request)).toList ∧
      (∀ D, ctx.deadlineTick? = some D → w'.ticks ≤ max w.ticks D) ∧
      (∀ x ∈ (c.invoke catalog ctx method target body reply options).handed w,
        ctx.isDone w = false ∧ (∀ D, ctx.deadline = some D → x.1.now < D) ∧
          ∀ C, w.due? ctx.token = some C → x.1.ticks < C) := by
  have hwarned := undisturbed_warned c catalog options w
  have hlimit : limitOf ctx (c.invocationOf method target body reply options)
      (c.warned catalog options w) = c.limitFor ctx options w :=
    Exchange.limitOf_of_clock ctx _ hwarned.clock
  -- From here on, everything is said of the world in which the warnings are written.
  rw [← hwarned.gets, ← hwarned.waitFor, ← hwarned.ticks]
  rw [← hwarned.waitFor, ← hwarned.ticks, ← hlimit, ← hwarned.due?] at hclear
  have hkeeps' : (c.invocationOf method target body reply options).info.Keeps
    World.Undisturbed := hkeeps
  have hahead' := hwarned.ahead hahead
  have hget (w₁ : World) (h : (c.warned catalog options w).Undisturbed w₁) :=
    Exchange.timely_get_readied (i := c.invocationOf method target body reply options) ctx
      hahead'.onTick (hwarned.lock ▸ hidle) hpunctual.connect h
  obtain ⟨t, e, hcourse, hrow⟩ := Exchange.exists_timetable hkeeps' hahead' hget hclear hpunctual.send
  obtain ⟨reply', w', hrun, hw'⟩ := exists_run_of_course hchain hcourse
  rw [← hw'] at hrow
  have hhanded := handed_of_course hchain hpunctual hkeeps hcourse
    fun p w₁ k w₂ hready htaking =>
      Exchange.clock_of_taken hkeeps' hahead' hget hclear hready htaking
  refine ⟨t, e, reply', w', hrun, hrow.of_quiet, hhanded,
    fun D hD => hrow.ticks_le hkeeps' hD, fun x hx => ?_⟩
  rw [hhanded] at hx
  cases t with
  | none => cases hx
  | some tr =>
    obtain rfl := List.mem_singleton.mp hx
    obtain ⟨hgoing, hdeadline, hdue⟩ := hrow.lt_of_some hkeeps'
    rw [hwarned.due?] at hdue
    refine ⟨?_, fun D hD => ?_, hdue⟩
    · rw [← ctx.isSignalled_eq_isDone hahead.onTick]
      exact hwarned.not_signalled hgoing
    · -- What is before the tick of a deadline is before the deadline.
      have htick := hdeadline D.tick (by rw [CallContext.deadlineTick?, hD, Option.map_some])
      rw [Clock.now_of_onTick (Clock.onTick_atTick _)]
      exact Instant.lt_tick_iff.mp htick

/-- A remote side that is slow to reach and slow to answer. -/
def slow : ScriptedRemote :=
  { ScriptedRemote.ok with
    connectDelay := some (.ofMillis 20)
    sendDelay := some (.ofMillis 30) }

/-- A context that stops a call after forty milliseconds. -/
def brief : CallContext := (CallContext.ofToken ⟨[0]⟩).withDeadline 40000000

/-- A call that would take longer than its context lets it. -/
theorem invoke_timetable_brief :
    ∃ (t : Option Transfer) (e : Departure Json CallResult) (reply' : Option Json) (w' : World),
      ((scripted slow []).invoke .standard brief "GET" "/" .empty (none : Option Json) []).run .initial =
        some (((e.andThen (conclusion false)).outcome, reply'), w') ∧
      Timetable brief ((scripted slow []).invocationOf "GET" "/" .empty (none : Option Json) [])
        .initial 20 30 ((scripted slow []).settings.toDialer.Gets .initial slow.Dials)
        (fun _ r => r = .ok (.ok (.success .null))) t e.outcome w' ∧
      ((scripted slow []).invoke .standard brief "GET" "/" .empty (none : Option Json) []).handed
        .initial = (t.map fun t => (.atTick 20, t.prepared.request)).toList ∧
      w'.ticks ≤ 40 := by
  have hpunctual : slow.connector.Punctual 20 30 slow.Dials
      fun _ r => r = .ok (.ok (.success .null)) := by
    rw [← Duration.ticks_ofMillis 20, ← Duration.ticks_ofMillis 30]
    exact ScriptedRemote.punctual (fun _ => .pure rfl) fun _ => rfl
  have hkeeps : (CallInfo.ofOptions []).Keeps World.Undisturbed :=
    ⟨fun _ h => (by cases h), fun _ h => by cases h⟩
  have hahead : World.initial.Ahead := ⟨rfl, .nil, fun _ h => by cases h⟩
  obtain ⟨t, e, reply', w', hrun, hrow, hhanded, hticks, -⟩ :=
    @invoke_timetable Json _ (scripted slow []) .standard brief "GET" "/" .empty none [] .initial
      20 30 _ _ (hasChain_scripted slow [] rfl) hpunctual hkeeps ⟨rfl, rfl, rfl⟩ hahead
      fun _ _ h => by cases h
  exact ⟨t, e, reply', w', hrun, hrow, hhanded, hticks 40 (congrArg some (Instant.tick_mul 40))⟩

end Client

end CallChain
