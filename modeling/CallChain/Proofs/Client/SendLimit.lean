import CallChain.Proofs.Client.Limits

/-!
# The limit of a request and the one it carries

The limit of a call is worked out before its request is made, and goes into the draft of the request.  The
request processor may change it there; what cuts off the answer is still the limit that was worked out.  So
over a connection that is kept, while the context lets the call be, the answer is cut off by the timeout of
the draft (`Exchange.exists_course_sent`), and by that of the request exactly when the processor left the
timeout alone (`Client.invoke_limit`).
-/

set_option autoImplicit false

namespace CallChain

open Exchange (Readied SendResult Transfer)

theorem World.limitEnd?_eq_none_iff {w : World} {limit : Option Duration} {n : Nat} :
    w.limitEnd? limit n = none ↔ ∀ l, limit = some l → n ≤ l.ticks := by
  cases limit with
  | none => simp [World.limitEnd?]
  | some l => simp [World.limitEnd?]

theorem World.limitEnd?_congr {w w' : World} (hticks : w'.ticks = w.ticks) (limit : Option Duration)
    (n : Nat) : w'.limitEnd? limit n = w.limitEnd? limit n := by
  unfold World.limitEnd?
  rw [hticks]

theorem CallContext.stop?_congr {ctx ctx' : CallContext} (htoken : ctx'.token = ctx.token)
    (hdeadline : ctx'.deadline = ctx.deadline) (w : World) : ctx'.stop? w = ctx.stop? w := by
  unfold CallContext.stop? CallContext.isCancelled CallContext.deadlineTick?
  rw [htoken, hdeadline]

/-- Only the ticks of a limit count. -/
theorem World.limitEnd?_eq_of_ticks (w : World) {limit limit' : Option Duration}
    (h : limit'.map Duration.ticks = limit.map Duration.ticks) (n : Nat) :
    w.limitEnd? limit n = w.limitEnd? limit' n := by
  cases limit with
  | none => rw [Option.map_eq_none_iff.mp h]
  | some l =>
    obtain ⟨l', rfl, hl'⟩ := Option.map_eq_some_iff.mp h
    simp only [World.limitEnd?, Option.filter_some, hl']
    split <;> simp only [Option.map_some, Option.map_none, hl']

/-- Limits that cut off the same work at the same time take the same number of ticks. -/
theorem World.forall_limitEnd?_eq_iff (w : World) {limit limit' : Option Duration} :
    (∀ n, w.limitEnd? limit n = w.limitEnd? limit' n) ↔
      limit'.map Duration.ticks = limit.map Duration.ticks := by
  constructor
  · intro h
    have hends {a b : Option Duration} (hab : ∀ n, w.limitEnd? a n = w.limitEnd? b n) {l : Duration}
        (hl : a = some l) : ∃ l', b = some l' ∧ l'.ticks = l.ticks := by
      have hend : w.limitEnd? a (l.ticks + 1) = some (w.ticks + l.ticks) :=
        World.limitEnd?_eq_some_iff.mpr ⟨l, hl, Nat.lt_succ_self _, rfl⟩
      obtain ⟨l', hl', -, hticks⟩ := World.limitEnd?_eq_some_iff.mp ((hab _).symm.trans hend)
      exact ⟨l', hl', Nat.add_left_cancel hticks⟩
    cases hlimit : limit with
    | some l =>
      obtain ⟨l', rfl, hl'⟩ := hends h hlimit
      exact congrArg some hl'
    | none =>
      cases hlimit' : limit' with
      | none => rfl
      | some l' =>
        obtain ⟨l, hl, -⟩ := hends (fun n => (h n).symm) hlimit'
        rw [hlimit] at hl
        cases hl
  · exact w.limitEnd?_eq_of_ticks

namespace Exchange

variable {ρ : Type} {R : Resumption} {ctx : CallContext} {i : Invocation ρ} {w w₁ v : World}
  {p p' : Prepared} {n : Nat} {conn : ConnectionId} {answers : TransportRequest → SendResult → Prop}

theorem Readied.prepared_unique (h : Readied ctx i w p w₁) (h' : Readied ctx i w p' v) : p' = p := by
  have hsame := (certain_prepare_of_readied (R := Work.alone) h _ i v).mp
    ((certain_prepare_of_readied h' _ i v).mpr ⟨rfl, rfl, rfl⟩)
  cases hsame.1
  rfl

/-- A readied request is what the options make of its draft. -/
theorem Readied.prepares (h : Readied ctx i w p w₁) : Prepares i p := by
  obtain ⟨-, -, hprocessor⟩ := h
  unfold Prepares Processes
  unfold processor at hprocessor
  cases hprocess : i.info.process with
  | none =>
    rw [hprocess] at hprocessor
    cases hprocessor
    rfl
  | some process =>
    rw [hprocess] at hprocessor
    exact ⟨_, _, hprocessor⟩

/-- A transfer hands over its request, even if it is given up, if sending does so first of all. -/
theorem Course.requests_of_sent {t : Transfer} {e : Departure ρ CallResult}
    (hw : Watches World.requests (fun q => [q]) i) (hR : ∀ g w w₁, R g w w₁ → w₁.requests = w.requests)
    (hhands : ∀ c q, (i.client.connector.send c q).run.HandsAtOnce q)
    (h : Course R ctx i w (some t) e) : e.world.requests = w.requests ++ [t.prepared.request] := by
  cases h with
  | @sent p c r w₁ w₂ w₃ hready htaking _ hsending =>
    have hbefore : w₂.requests = w.requests :=
      (requests_taking hw hR htaking).trans (hready.requests_eq hw)
    have hsends : (sending ctx i.client.connector c p w₂.nextPlace).HandsAtOnce p.request :=
      (Attempt.handsAtOnce_within (hhands c p.request) p.limit).interruptedBy
    obtain ⟨qs, hqs, rfl⟩ := Work.Traces.of_ends hR hsending hsends.traces
    show w₃.quiet.requests = _
    rw [World.requests_quiet, hqs, ← hbefore]
    rfl

/-- With the connection at hand and a context that lets it be, a request that is ready goes out, and is
answered in its time or cut off by the limit it was readied with. -/
theorem Timetable.endsBy_limit {t : Option Transfer} {o : Except Panic CallResult}
    (h : Timetable ctx i w 0 n (· = .ok (.ok conn)) answers t o v) (hready : Readied ctx i w p w₁)
    (hlimit : p.limit = limitOf ctx i w)
    (hallows : ctx.Allows w₁ (w.ticks + Attempt.limited p.limit n)) :
    ∃ race, t = some ⟨p, conn, race⟩ ∧
      EndsBy (w.limitEnd? p.limit n) (w.ticks + n)
        (fun o => ∃ l, p.limit = some l ∧ o = .ok (.error (Transfer.failure i.codes (.timeout l))))
        (fun o => ∃ r, answers p.request r ∧ race = some (r.map some) ∧
          o = r.map (p.resultOf i.codes)) v.clock o := by
  -- Of the rows of the timetable two are left: the context would stop the call in the others.
  cases h with
  | unready h => exact absurd hready (not_readied_of_unready h)
  | done h ht hle =>
    rw [hready.unique h] at ht
    exact absurd (Nat.lt_of_le_of_lt (Nat.le_add_right _ _) (hallows _ ht)) (Nat.not_lt_of_le hle)
  | stopped _ _ hlt hle => exact absurd hle (Nat.not_le_of_lt hlt)
  | unconnected _ _ hgot | dialPanic _ _ hgot => cases hgot
  | cancelled h _ ht _ hle =>
    rw [hready.unique h] at ht
    rw [← hlimit] at hle
    exact absurd hle (Nat.not_le_of_lt (hallows _ ht))
  | answered h hgot hr hlong _ hclock =>
    obtain rfl := hready.prepared_unique h
    cases hgot
    rw [← hlimit] at hlong
    rw [hclock]
    exact ⟨_, rfl, .completed (World.limitEnd?_eq_none_iff.mpr hlong) ⟨_, hr, rfl, rfl⟩⟩
  | timedOut h hgot hl hlt _ hclock =>
    obtain rfl := hready.prepared_unique h
    cases hgot
    rw [← hlimit] at hl
    rw [hclock]
    exact ⟨_, rfl, .cut (World.limitEnd?_eq_some_iff.mpr ⟨_, hl, hlt, rfl⟩) ⟨_, hl, rfl⟩⟩

/-- A fetch whose request is ready, with the connection at hand and a context that lets it be, takes such a
course. -/
theorem exists_course_limited (hready : Readied ctx i w p w₁) (hkeeps : i.info.Keeps World.Undisturbed)
    (hahead : w.Ahead) (hidle : w.lock.Idle) (hconn : w.connection = some conn)
    (hallows : ctx.Allows w₁ (w.ticks + Attempt.limited p.limit n))
    (hsend : ∀ k q, (i.client.connector.send k q).Takes n (answers q)) :
    ∃ race e, Course Work.alone ctx i w (some ⟨p, conn, race⟩) e ∧
      EndsBy (w.limitEnd? p.limit n) (w.ticks + n)
        (fun o => ∃ l, p.limit = some l ∧ o = .ok (.error (Transfer.failure i.codes (.timeout l))))
        (fun o => ∃ r, answers p.request r ∧ race = some (r.map some) ∧
          o = r.map (p.resultOf i.codes)) e.world.clock e.outcome := by
  have hsame := keeps_undisturbed hkeeps hready
  have hlimit := hready.limit_eq hkeeps
  have hgoing : ctx.isSignalled w₁ = false :=
    hallows.not_signalled (Nat.le_trans (Nat.le_of_eq hsame.ticks) (Nat.le_add_right _ _))
  have hget (w₂ : World) (h : w.Undisturbed w₂) := timely_get_at_hand (i := i) ctx hidle hconn h
  have hclear (t : Tick)
      (h : t ∈ [w.ticks, w.ticks + 0, w.ticks + 0 + Attempt.limited (limitOf ctx i w) n]) :
      w.due? ctx.token ≠ some t := by
    rw [← hsame.due?]
    intro hdue
    have hlater := (CallContext.lt_of_allows hgoing hallows).2 t hdue
    rw [← hlimit] at h
    simp only [List.mem_cons, List.not_mem_nil, or_false] at h
    unfold Tick at *
    omega
  obtain ⟨t, e, hcourse, hrow⟩ := exists_timetable hkeeps hahead hget hclear hsend
  obtain ⟨race, rfl, hends⟩ := hrow.endsBy_limit hready hlimit hallows
  exact ⟨race, e, hcourse, hends⟩

end Exchange

namespace Client

variable {ρ : Type} [Reply ρ] {c : Client} {catalog : Catalog} {ctx : CallContext}
  {method target : String} {body : RequestBody} {reply : Option ρ} {options : List CallOption}
  {bs : List Builtin} {w w₁ : World} {n : Nat} {conn : ConnectionId} {p : Exchange.Prepared}
  {answers : TransportRequest → SendResult → Prop}

omit [Reply ρ] in
/-- The limit at the center of a chain is the one the call came with. -/
theorem limitOf_entered_eq {y : Entrance ρ}
    (h : Builtin.Entered bs (c.entranceOf catalog ctx method target body reply options w) y)
    (hclock : y.world.clock = w.clock) :
    Exchange.limitOf y.context y.invocation y.world = c.limitFor ctx options w := by
  have htimeout : y.invocation.info.timeout = (CallInfo.ofOptions (c.optionsOf options)).timeout := by
    rw [h.info]
    rfl
  have hremaining : y.context.remaining y.world = ctx.remaining w := by
    unfold CallContext.remaining World.now
    rw [h.deadline, hclock]
    rfl
  unfold Exchange.limitOf limitFor
  rw [htimeout, hremaining, h.invocation]
  rfl

/-- A call over a kept connection, whose context does not stop it, hands over one request.  The answer is cut
off by the timeout that the draft of this request had, which is worked out from the timeouts of the call and
the client and from the deadline.  It is cut off by the timeout that the request itself has, however long the
answer takes, exactly if the request processor left the timeout of the draft alone. -/
theorem invoke_limit {d : Nat} {dialed : Dialer.DialResult → Prop} {y : Entrance ρ}
    (hchain : c.HasChain catalog options bs)
    (hpasses : ¬ Chain.Refused c.skippers bs (c.invocationOf method target body reply options))
    (hy : y = c.centerOf catalog ctx method target body reply options bs w)
    (hready : Readied y.context y.invocation y.world p w₁)
    (hkeeps : (CallInfo.ofOptions (c.optionsOf options)).Keeps World.Undisturbed)
    (hpunctual : c.settings.connector.Punctual d n dialed answers)
    (hahead : w.Ahead) (hidle : w.lock.Idle) (hconn : w.connection = some conn)
    (hallows : ctx.Allows w₁ (w.ticks + Attempt.limited (c.limitFor ctx options w) n)) :
    ∃ (o : Except Panic CallResult) (reply' : Option ρ) (w' : World) (draft : TransportRequest),
      (c.invoke catalog ctx method target body reply options).run w = some ((o, reply'), w') ∧
      w'.requests = w.requests ++ [p.request] ∧
      Exchange.Processes (CallInfo.ofOptions (c.optionsOf options)) draft p.request ∧
      draft.timeout = c.limitFor ctx options w ∧
      EndsBy (w.limitEnd? draft.timeout n) (w.ticks + n)
        (fun o => ∃ l f, draft.timeout = some l ∧
          f.Alike (Transfer.failure c.settings.codes (.timeout l)) ∧ o = .ok (.error f))
        (fun o => ∃ r, answers p.request r ∧
          carried? o = Transfer.received? ⟨p, conn, some (r.map some)⟩)
        w'.clock o ∧
      ((∀ m, w.limitEnd? draft.timeout m = w.limitEnd? p.request.timeout m) ↔
        p.request.timeout.map Duration.ticks = draft.timeout.map Duration.ticks) := by
  have hentered := hy ▸ entered_centerOf c catalog ctx method target body reply options bs w
  obtain ⟨hbefore, hkeeps'⟩ := undisturbed_entered hentered hkeeps
  have hlimit : p.limit = c.limitFor ctx options w :=
    (hready.limit_eq hkeeps').trans (limitOf_entered_eq hentered hbefore.clock)
  have hallows' : y.context.Allows w₁ (y.world.ticks + Attempt.limited p.limit n) := by
    unfold CallContext.Allows
    rw [hlimit, hbefore.ticks, CallContext.stop?_congr hentered.token hentered.deadline]
    exact hallows
  have hconnector : y.invocation.client.connector = c.settings.connector := by
    rw [hentered.invocation]
    rfl
  obtain ⟨race, e, hcourse, hends⟩ := Exchange.exists_course_limited hready hkeeps'
    (hbefore.ahead hahead) (hbefore.lock ▸ hidle) (hbefore.connection.trans hconn) hallows'
    (hconnector ▸ hpunctual.send)
  have htrip := Chain.Trip.fetched hpasses hy hcourse
  obtain ⟨w', hw', hquiet⟩ :=
    (ends_invoke_iff hchain).mpr ⟨_, Chain.endsFrom_iff_trip.mpr ⟨_, htrip⟩, rfl⟩
  -- No time passes on the way out, nothing is sent there, and a failure leaves as itself.
  have hclock : w'.clock = e.world.clock := by
    have hafter : e.world.SameTime w'.quiet := by
      rw [hquiet]
      exact (Exchange.sameTime_conclusion _ e).trans (Builtin.sameTime_leaveAll _ _ _)
    exact hafter.clock
  have hrequests : w'.requests = w.requests ++ [p.request] := by
    have hwatches : Exchange.Watches World.requests (fun q => [q]) y.invocation :=
      watches_requests
        (hconnector ▸ ⟨hpunctual.silent, fun k q => (hpunctual.hands k q).traces⟩)
        ⟨fun a ha v => (hkeeps'.resolver a ha v).requests,
          fun a ha q v => (hkeeps'.process a ha q v).requests⟩
    have hleft : w'.quiet.requests = e.world.requests := by
      rw [hquiet, ← Exchange.world_conclusion y.invocation.info.responseNotParse e]
      exact Builtin.requests_leaveAll _ _ _
    rw [← World.requests_quiet, hleft,
      hcourse.requests_of_sent hwatches Work.requests_alone (hconnector ▸ hpunctual.hands),
      hbefore.requests]
  have hcodes : y.invocation.codes = c.settings.codes := by
    rw [hentered.invocation]
    rfl
  have hprocesses : Exchange.Processes (CallInfo.ofOptions (c.optionsOf options))
      (Exchange.draftOf y.invocation p.url p.limit) p.request := by
    have hprepares : Exchange.Processes y.invocation.info _ _ := hready.prepares
    rw [hentered.info] at hprepares
    exact hprepares
  refine ⟨_, _, w', _, Work.run_eq_some_iff.mpr hw', hrequests, hprocesses, hlimit, ?_,
    w.forall_limitEnd?_eq_iff⟩
  rw [World.limitEnd?_congr hbefore.ticks, hbefore.ticks, ← hclock] at hends
  refine hends.imp ?_ ?_
  · rintro ⟨l, hl, ho⟩
    obtain ⟨-, f, hf, halike⟩ := Builtin.failsWith_leaveAll
      (Exchange.failsWith_conclusion (hcourse.invocation_eq ▸ hcodes) ho _)
    rw [hcodes] at halike
    exact ⟨l, f, hl, halike, hf⟩
  · rintro ⟨r, hr, rfl, -⟩
    exact ⟨r, hr, htrip.carried?_eq⟩

/-- An option that gives the request more time. -/
def patient : CallOption :=
  .processRequest fun q w => (.ok (.ok { q with timeout := some (.ofMillis 60) }), w)

def patientCenter : Entrance Json :=
  (timed (.ofMillis 3)).centerOf .standard (.ofToken ⟨[0]⟩) "GET" "/" .empty none [patient] [.accessLog]
    connected

theorem readied_patient :
    ∃ p w₁, Readied patientCenter.context patientCenter.invocation patientCenter.world p w₁ ∧
      (CallContext.ofToken ⟨[0]⟩).stop? w₁ = none ∧ p.request.timeout = some (.ofMillis 60) :=
  ⟨_, _, .intro rfl rfl rfl, rfl, rfl⟩

/-- The request asks for sixty milliseconds, and its answer is cut off after the three of the client. -/
theorem invoke_limit_patient :
    ∃ o reply' w', ((timed (.ofMillis 3)).invoke .standard (.ofToken ⟨[0]⟩) "GET" "/" .empty
        (none : Option Json) [patient]).run connected = some ((o, reply'), w') ∧
      w'.requests.map (·.timeout) = [some (.ofMillis 60)] ∧ w'.clock = .atTick 3 := by
  have hkeeps : (CallInfo.ofOptions [patient]).Keeps World.Undisturbed := by
    refine ⟨fun _ h => (by cases h), fun _ h q w => ?_⟩
    cases h
    exact .refl w
  have hpunctual : leisurely.connector.Punctual 0 5 leisurely.Dials
      fun _ r => r = .ok (.ok (.success .null)) :=
    ScriptedRemote.punctual (fun _ => .pure rfl) fun _ => rfl
  have hchain : (timed (.ofMillis 3)).HasChain .standard [patient] [.accessLog] :=
    @hasChain_scripted leisurely [.accessLog] [patient] rfl
  obtain ⟨p, w₁, hready, hstop, hrequest⟩ := readied_patient
  obtain ⟨o, reply', w', draft, hrun, hrequests, -, htimeout, hends, -⟩ :=
    invoke_limit hchain (not_refused_timed (.ofMillis 3)) rfl hready hkeeps hpunctual
      (calm_connected ⟨[0]⟩ 0).ahead (calm_connected ⟨[0]⟩ 0).idle (calm_connected ⟨[0]⟩ 0).connection
      fun t ht => by rw [hstop] at ht; cases ht
  refine ⟨o, reply', w', hrun, ?_, ?_⟩
  · rw [hrequests, ← hrequest]
    rfl
  · rw [htimeout] at hends
    exact hends.eq_of_some.1

/-- An answer that comes within the time of its request is cut off all the same. -/
theorem answer_cut_off_within_request_timeout :
    ∃ f w', ((scripted leisurely []).invoke .standard (.ofToken ⟨[0]⟩) "GET" "/" .empty
        (none : Option Json) [.timeout (.ofMillis 3), patient]).run connected =
          some ((.ok (.error f), none), w') ∧
      w'.requests.map (·.timeout) = [some (.ofMillis 60)] ∧
      connected.limitEnd? (some (.ofMillis 60)) 5 = none ∧ w'.clock = .atTick 3 := by
  rw [invoke_scripted_nil _ _ _ _ _ _ rfl]
  refine ⟨_, _, rfl, ?_, ?_, ?_⟩
  · rfl
  · rfl
  · decide +kernel

end Client

end CallChain
