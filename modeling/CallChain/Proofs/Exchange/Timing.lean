import CallChain.Proofs.Call.Stop
import CallChain.Proofs.Connection.Timing
import CallChain.Proofs.Exchange.Course

/-!
# When a fetch ends, and how

A fetch that runs alone waits for the connection and for the answer, and may be stopped by its context
in either race.  `Timetable` says for each order of events how the fetch ends and when;
`exists_timetable` says that it ends in this way and at this time.
-/

set_option autoImplicit false

namespace CallChain

/-- What closures that only look and answer leave alone; they may cancel a call. -/
structure World.Undisturbed (w w' : World) : Prop where
  clock : w'.clock = w.clock
  cancelled : ∀ t, w.isCancelled t = true → w'.isCancelled t = true
  agenda : w'.agenda = w.agenda
  lock : w'.lock = w.lock
  connection : w'.connection = w.connection
  requests : w'.requests = w.requests
  dials : w'.dials = w.dials

namespace World

variable {w w₁ w' : World}

theorem dials_record_logged (r : LogRecord) (w : World) :
    (w.record (.logged r)).dials = w.dials := by
  simp [record, dials]

namespace Undisturbed

theorem refl (w : World) : w.Undisturbed w := ⟨rfl, fun _ h => h, rfl, rfl, rfl, rfl, rfl⟩

theorem trans (h : w.Undisturbed w₁) (h' : w₁.Undisturbed w') : w.Undisturbed w' :=
  ⟨h'.clock.trans h.clock, fun t ht => h'.cancelled t (h.cancelled t ht), h'.agenda.trans h.agenda,
    h'.lock.trans h.lock, h'.connection.trans h.connection, h'.requests.trans h.requests,
    h'.dials.trans h.dials⟩

theorem logged (w : World) (r : LogRecord) : w.Undisturbed (w.record (.logged r)) :=
  ⟨rfl, fun _ h => h, rfl, rfl, rfl, requests_record (fun _ h => by cases h) w,
    dials_record_logged r w⟩

theorem ticks (h : w.Undisturbed w') : w'.ticks = w.ticks := congrArg Clock.ticks h.clock

theorem onTick (h : w.Undisturbed w') (hw : w.OnTick) : w'.OnTick := by
  rw [World.OnTick, h.clock]
  exact hw

theorem ahead (h : w.Undisturbed w') (hahead : w.Ahead) : w'.Ahead := by
  obtain ⟨hon, hsorted, hdue⟩ := hahead
  rw [← h.agenda] at hsorted hdue
  rw [← h.ticks] at hdue
  exact ⟨h.onTick hon, hsorted, hdue⟩

theorem due? (h : w.Undisturbed w') (token : Token) : w'.due? token = w.due? token := by
  unfold World.due?
  rw [h.agenda]

/-- A context whose end is there keeps it. -/
theorem isSignalled {ctx : CallContext} (h : w.Undisturbed w') (hdone : ctx.isSignalled w = true) :
    ctx.isSignalled w' = true := by
  rw [CallContext.isSignalled_eq, Bool.or_eq_true] at hdone ⊢
  refine hdone.imp (h.cancelled ctx.token) fun hexpired => ?_
  rw [h.ticks]
  exact hexpired

theorem not_signalled {ctx : CallContext} (h : w.Undisturbed w') (hdone : ctx.isSignalled w' = false) :
    ctx.isSignalled w = false := by
  refine Bool.eq_false_iff.mpr fun hnot => ?_
  rw [h.isSignalled hnot] at hdone
  cases hdone

theorem waitFor (h : w.Undisturbed w') (n : Nat) : Dialer.waitFor w' n = Dialer.waitFor w n := by
  unfold Dialer.waitFor
  rw [h.connection]

theorem gets (h : w.Undisturbed w') (d : Dialer) (dialed : Dialer.DialResult → Prop) :
    d.Gets w' dialed = d.Gets w dialed := by
  unfold Dialer.Gets
  rw [h.connection]

end Undisturbed

end World

namespace Exchange

variable {ρ : Type}

/-- What sending a request can come to. -/
abbrev SendResult := Except Panic (Except TransportError TransportResponse)

/-- What a fetch makes of the answer to its request. -/
def Prepared.resultOf (p : Prepared) (codes : CodeRegistry) :
    Except TransportError TransportResponse → CallResult
  | .ok response => .ok (p.responseOf response)
  | .error e => .error (Transfer.failure codes e)

section

variable (ctx : CallContext) (i : Invocation ρ) (w : World)

/-- How a fetch ends when the connection is there after the first time and the answer after the second
one, with what the two can come to; the world is the one at the end. -/
inductive Timetable (d s : Nat) (got : Dialer.GetResult → Prop)
    (answers : TransportRequest → SendResult → Prop) :
    Option Transfer → Except Panic CallResult → World → Prop where
  /-- Without a request, the fetch ends at once. -/
  | unready {x : Except Panic CallFailure} {w₁ v : World} :
      Unready ctx i w x w₁ → v.clock = w.clock → v.dials = w.dials →
      Timetable d s got answers none (x.map .error) v
  /-- A context that is done by then has nothing dialed. -/
  | done {p : Prepared} {w₁ v : World} {t : Tick} :
      Readied ctx i w p w₁ → ctx.stop? w₁ = some t → t ≤ w.ticks → v.clock = w.clock →
      v.dials = w.dials →
      Timetable d s got answers none
        (.ok (.error (.new
          (Fault.wrap i.codes (i.codes.site .connectionLate) Codes.httpError
            (ctx.stopReason w₁))))) v
  /-- A context that stops the call by the time of the connection has nothing sent. -/
  | stopped {p : Prepared} {w₁ v : World} {t : Tick} :
      Readied ctx i w p w₁ → ctx.stop? w₁ = some t → w.ticks < t → t ≤ w.ticks + d →
      v.clock = .atTick t →
      Timetable d s got answers none
        (.ok (.error (.new
          (Fault.wrap i.codes (i.codes.site .connectionLate) Codes.httpError
            (ctx.stopReason w₁))))) v
  /-- Without a connection, nothing is sent. -/
  | unconnected {p : Prepared} {f : Fault} {w₁ v : World} :
      Readied ctx i w p w₁ → ctx.Allows w₁ (w.ticks + d) →
      got (.ok (.error f)) → v.clock = .atTick (w.ticks + d) →
      Timetable d s got answers none (.ok (.error (.new f))) v
  | dialPanic {p : Prepared} {q : Panic} {w₁ v : World} :
      Readied ctx i w p w₁ → ctx.Allows w₁ (w.ticks + d) →
      got (.error q) → v.clock = .atTick (w.ticks + d) → Timetable d s got answers none (.error q) v
  /-- A context that stops the call by the time of the answer or of the limit goes first. -/
  | cancelled {p : Prepared} {c : ConnectionId} {w₁ v : World} {t : Tick} :
      Readied ctx i w p w₁ → got (.ok (.ok c)) → ctx.stop? w₁ = some t → w.ticks + d < t →
      t ≤ w.ticks + d + Attempt.limited (limitOf ctx i w) s → v.clock = .atTick t →
      Timetable d s got answers (some ⟨p, c, none⟩)
        (.ok (.error (Transfer.failure i.codes (.cancelled (ctx.stopReason w₁))))) v
  /-- An answer at the time of the limit goes before the limit. -/
  | answered {p : Prepared} {c : ConnectionId} {r : SendResult} {w₁ v : World} :
      Readied ctx i w p w₁ → got (.ok (.ok c)) → answers p.request r →
      (∀ l, limitOf ctx i w = some l → s ≤ l.ticks) →
      ctx.Allows w₁ (w.ticks + d + s) → v.clock = .atTick (w.ticks + d + s) →
      Timetable d s got answers (some ⟨p, c, some (r.map some)⟩)
        (r.map (p.resultOf i.codes)) v
  | timedOut {p : Prepared} {c : ConnectionId} {l : Duration} {w₁ v : World} :
      Readied ctx i w p w₁ → got (.ok (.ok c)) → limitOf ctx i w = some l → l.ticks < s →
      ctx.Allows w₁ (w.ticks + d + l.ticks) → v.clock = .atTick (w.ticks + d + l.ticks) →
      Timetable d s got answers (some ⟨p, c, some (.ok none)⟩)
        (.ok (.error (Transfer.failure i.codes (.timeout l)))) v

end

variable {ctx : CallContext} {i : Invocation ρ} {w w₁ : World} {d s : Nat}
  {got : Dialer.GetResult → Prop} {answers : TransportRequest → SendResult → Prop}

theorem keeps_undisturbed {p : Prepared} (hkeeps : i.info.Keeps World.Undisturbed)
    (h : Readied ctx i w p w₁) : w.Undisturbed w₁ :=
  h.keeps .refl (fun _ _ _ h h' => h.trans h') hkeeps

theorem limitOf_of_clock (ctx : CallContext) (i : Invocation ρ) (hclock : w₁.clock = w.clock) :
    limitOf ctx i w₁ = limitOf ctx i w := by
  unfold limitOf CallContext.remaining World.now
  rw [hclock]

/-- The limit of a request is that of its call when it began. -/
theorem Readied.limit_eq {p : Prepared} (hkeeps : i.info.Keeps World.Undisturbed)
    (h : Readied ctx i w p w₁) : p.limit = limitOf ctx i w := by
  obtain ⟨hresolver, -, -⟩ := h
  exact limitOf_of_clock ctx i (keeps_resolver .refl hkeeps hresolver).clock

/-- A request that goes out is answered, cut off or cancelled when the timetable says. -/
theorem exists_timetable_sent {p : Prepared} {c : ConnectionId} {w₂ : World}
    (hready : Readied ctx i w p w₁) (hlimit : p.limit = limitOf ctx i w) (hgot : got (.ok (.ok c)))
    (htaking : Work.Ends Work.alone (taking ctx i).run w₁ (.ok (some (.ok c))) w₂)
    (hticks₂ : w₂.ticks = w.ticks + d) (hahead₂ : w₂.Ahead) (hdone₂ : ctx.isSignalled w₂ = false)
    (hstop₂ : ctx.stop? w₂ = ctx.stop? w₁) (hreason₂ : ctx.stopReason w₂ = ctx.stopReason w₁)
    (hallows : ctx.Allows w₁ (w.ticks + d))
    (hsend : (i.client.connector.send c p.request).Takes s (answers p.request))
    (hclear : w₂.due? ctx.token ≠
      some (w.ticks + d + Attempt.limited (limitOf ctx i w) s)) :
    ∃ t e, Course Work.alone ctx i w t e ∧
      Timetable ctx i w d s got answers t e.outcome e.world := by
  have hsame := World.SameTime.takePlace w₂
  have hstop : ctx.stop? w₂.takePlace = ctx.stop? w₁ := (hsame.stop? ctx).trans hstop₂
  obtain ⟨r, w₃, hwithin, hticks₃, hr⟩ := hsend.limited p.limit w₂.takePlace hahead₂.onTick
  rw [hlimit] at hr
  have hticks : w₃.ticks = w.ticks + d + Attempt.limited (limitOf ctx i w) s := by
    rw [hticks₃, hsame.ticks, hticks₂, hlimit]
  have hon₃ : w₃.OnTick := hwithin.onTick hahead₂.onTick
  -- The limit is part of the work here: what the context races is the answer or the limit.
  by_cases hin : ctx.Allows w₁ w₃.ticks
  · -- The context does not stop the call before the answer or the limit.
    obtain ⟨hrun, -⟩ := hwithin.run_interruptedBy w₂.nextPlace (hsame.ahead hahead₂)
      ((hsame.isSignalled ctx).trans hdone₂) fun t ht => hin t (hstop ▸ ht)
    have hcourse := Course.sent hready htaking hdone₂ (Work.run_eq_some_iff.mp hrun)
    refine ⟨_, _, hcourse, ?_⟩
    rcases hr with ⟨hlong, x, hx, rfl⟩ | ⟨l, hl, hshort, rfl⟩
    · rw [Attempt.limited_of_long hlong] at hticks
      have hrow := Timetable.answered (v := w₃.quiet) hready hgot hx hlong (hticks ▸ hin)
        (hon₃.eq_atTick hticks)
      obtain _ | _ | _ := x <;> exact hrow
    · rw [hl, Attempt.limited_of_short hshort] at hticks
      have hrow : Timetable ctx i w d s got answers _ _ w₃.quiet :=
        .timedOut hready hgot hl hshort (hticks ▸ hin) (hon₃.eq_atTick hticks)
      have hp : p.limit = some l := hlimit.trans hl
      unfold Transfer.outcome
      dsimp only
      rw [hp]
      exact hrow
  · unfold CallContext.Allows at hin
    simp only [Classical.not_forall, Nat.not_lt] at hin
    obtain ⟨t, ht, hle⟩ := hin
    obtain ⟨w₄, hrun, hclock₄, hreason₄⟩ := hwithin.run_interruptedBy_none w₂.nextPlace
      (hsame.ahead hahead₂) ((hsame.isSignalled ctx).trans hdone₂)
      (by rw [hsame.due?, hticks]; exact hclear) (hstop ▸ ht) hle
    have hcourse := Course.sent hready htaking hdone₂ (Work.run_eq_some_iff.mp hrun)
    have hrow : Timetable ctx i w d s got answers _ _ w₄.quiet :=
      .cancelled hready hgot ht (hallows t ht) (hticks ▸ hle) hclock₄
    rw [← hreason₂, ← hsame.stopReason ctx, ← hreason₄] at hrow
    exact ⟨_, _, hcourse, hrow⟩

namespace Timetable

variable {t : Option Transfer} {o : Except Panic CallResult} {v : World}

/-- The log is left out of the timetable. -/
theorem of_quiet (h : Timetable ctx i w d s got answers t o v.quiet) :
    Timetable ctx i w d s got answers t o v := by
  have hdials := World.dials_quiet v
  cases h with
  | unready h hclock hv => exact .unready h hclock (hdials.symm.trans hv)
  | done h ht hle hclock hv => exact .done h ht hle hclock (hdials.symm.trans hv)
  | stopped h ht hlt hle hclock => exact .stopped h ht hlt hle hclock
  | unconnected h hin hgot hclock => exact .unconnected h hin hgot hclock
  | dialPanic h hin hgot hclock => exact .dialPanic h hin hgot hclock
  | cancelled h hgot ht hlt hle hclock => exact .cancelled h hgot ht hlt hle hclock
  | answered h hgot hr hl hin hclock => exact .answered h hgot hr hl hin hclock
  | timedOut h hgot hl hlt hin hclock => exact .timedOut h hgot hl hlt hin hclock

/-- A request goes out only while its context lets the call go on. -/
theorem allows {tr : Transfer} (h : Timetable ctx i w d s got answers (some tr) o v) :
    ∃ w₁, Readied ctx i w tr.prepared w₁ ∧ ctx.Allows w₁ (w.ticks + d) := by
  cases h with
  | cancelled h _ ht hlt =>
    refine ⟨_, h, fun t' ht' => ?_⟩
    rw [ht] at ht'
    cases ht'
    exact hlt
  | answered h _ _ _ hin | timedOut h _ _ _ hin =>
    exact ⟨_, h, fun t ht => Nat.lt_of_le_of_lt (Nat.le_add_right _ _) (hin t ht)⟩

/-- A request goes out only before the deadline and the cancellation of its call. -/
theorem lt_of_some (hkeeps : i.info.Keeps World.Undisturbed) {tr : Transfer}
    (h : Timetable ctx i w d s got answers (some tr) o v) :
    ctx.isSignalled w = false ∧ (∀ D, ctx.deadlineTick? = some D → w.ticks + d < D) ∧
      ∀ C, w.due? ctx.token = some C → w.ticks + d < C := by
  obtain ⟨w₁, hready, hallows⟩ := h.allows
  have hsame := keeps_undisturbed hkeeps hready
  have hdone : ctx.isSignalled w₁ = false :=
    hallows.not_signalled (Nat.le_trans (Nat.le_of_eq hsame.ticks) (Nat.le_add_right _ _))
  obtain ⟨hdeadline, hdue⟩ := CallContext.lt_of_allows hdone hallows
  rw [hsame.due?] at hdue
  exact ⟨hsame.not_signalled hdone, hdeadline, hdue⟩

/-- No call outlives its deadline. -/
theorem ticks_le (hkeeps : i.info.Keeps World.Undisturbed)
    (h : Timetable ctx i w d s got answers t o v) {D : Tick} (hD : ctx.deadlineTick? = some D) :
    v.ticks ≤ max w.ticks D := by
  have hstop {p : Prepared} {w₁ : World} (hready : Readied ctx i w p w₁) :
      ∃ t, ctx.stop? w₁ = some t ∧ t ≤ max w.ticks D := by
    rw [← (keeps_undisturbed hkeeps hready).ticks]
    exact CallContext.stop?_le hD
  have hallows {p : Prepared} {w₁ : World} (hready : Readied ctx i w p w₁) {x : Tick}
      (hin : ctx.Allows w₁ x) : x ≤ max w.ticks D := by
    obtain ⟨t, ht, hle⟩ := hstop hready
    exact Nat.le_trans (Nat.le_of_lt (hin t ht)) hle
  have hstopped {p : Prepared} {w₁ : World} (hready : Readied ctx i w p w₁) {t : Tick}
      (ht : ctx.stop? w₁ = some t) : t ≤ max w.ticks D := by
    obtain ⟨t', ht', hle⟩ := hstop hready
    rw [ht] at ht'
    cases ht'
    exact hle
  -- A row is over at once, at the stop, or at a time that the context allows.
  cases h with
  | unready _ hclock | done _ _ _ hclock =>
    rw [World.ticks, hclock]
    exact Nat.le_max_left _ _
  | stopped hready ht _ _ hclock | cancelled hready _ ht _ _ hclock =>
    rw [World.ticks, hclock]
    exact hstopped hready ht
  | unconnected hready hin _ hclock | dialPanic hready hin _ hclock
    | answered hready _ _ _ hin hclock | timedOut hready _ _ _ hin hclock =>
    rw [World.ticks, hclock]
    exact hallows hready hin

end Timetable

variable (hkeeps : i.info.Keeps World.Undisturbed) (hahead : w.Ahead)
  (hget : ∀ w₁, w.Undisturbed w₁ → ∃ r w', (i.client.toDialer.get ctx.span).run.Timely
    w₁.takePlace r w' ∧ w'.ticks = w.ticks + d ∧ got r)
  (hclear : ∀ t ∈ [w.ticks, w.ticks + d, w.ticks + d + Attempt.limited (limitOf ctx i w) s],
    w.due? ctx.token ≠ some t)

include hkeeps hahead hget hclear

/-- The race for the connection is over before it begins, or lost to the context, or won. -/
theorem taking_cases {p : Prepared} (hready : Readied ctx i w p w₁) :
    (ctx.isSignalled w₁ = true ∧ ctx.reason w₁ = ctx.stopReason w₁ ∧
        (taking ctx i).run.run w₁ = some (.ok none, w₁.takePlace)) ∨
      (∃ t w₂, ctx.stop? w₁ = some t ∧ w.ticks < t ∧ t ≤ w.ticks + d ∧
        (taking ctx i).run.run w₁ = some (.ok none, w₂) ∧ w₂.clock = .atTick t ∧
        ctx.reason w₂ = ctx.stopReason w₁) ∨
      ∃ r w₂, got r ∧ ctx.Allows w₁ (w.ticks + d) ∧
        (taking ctx i).run.run w₁ = some (r.map some, w₂) ∧ w₂.ticks = w.ticks + d ∧ w₂.Ahead ∧
        ctx.isSignalled w₂ = false ∧ ctx.stop? w₂ = ctx.stop? w₁ ∧
        ctx.stopReason w₂ = ctx.stopReason w₁ ∧ w₂.due? ctx.token = w.due? ctx.token := by
  have hundisturbed := keeps_undisturbed hkeeps hready
  have hdue := hundisturbed.due? ctx.token
  obtain ⟨r, w₂, hr, hticks₂, hgot⟩ := hget w₁ hundisturbed
  rcases Attempt.unlessBefore_cases hr (hundisturbed.ahead hahead)
      (by rw [hdue, hundisturbed.ticks]; exact hclear _ (by simp))
      (by rw [hdue, hticks₂]; exact hclear _ (by simp)) with
    hdone | ⟨t, w₃, ht, hlt, hle, hrun, hrest⟩ |
    ⟨hin, hrun, hahead₂, hdone₂, hstop₂, hreason₂, hdue₂⟩
  · exact .inl hdone
  · exact .inr (.inl ⟨t, w₃, ht, hundisturbed.ticks ▸ hlt, hticks₂ ▸ hle, hrun, hrest⟩)
  · exact .inr (.inr ⟨r, w₂, hgot, hticks₂ ▸ hin, hrun, hticks₂, hahead₂, hdone₂, hstop₂, hreason₂,
      hdue₂.trans hdue⟩)

/-- A connection that is taken in time is there when the timetable says. -/
theorem clock_of_taken {p : Prepared} {c : ConnectionId} {w₂ : World}
    (hready : Readied ctx i w p w₁)
    (h : Work.Ends Work.alone (taking ctx i).run w₁ (.ok (some (.ok c))) w₂) :
    w₂.clock = .atTick (w.ticks + d) := by
  have hrun := Work.run_eq_some_iff.mpr h
  rcases taking_cases hkeeps hahead hget hclear hready with
    ⟨-, -, hnone⟩ | ⟨t, v, -, -, -, hnone, -⟩ | ⟨r, v, -, -, hsome, hticks, hahead₂, -⟩
  · rw [hnone] at hrun
    cases hrun
  · rw [hnone] at hrun
    cases hrun
  · rw [hsome] at hrun
    obtain rfl : v = w₂ := (congrArg Prod.snd (Option.some.inj hrun) :)
    exact hahead₂.onTick.eq_atTick hticks

/-- A fetch that runs alone ends as the timetable says, if no cancellation falls on one of its own
events. -/
theorem exists_timetable (hsend : ∀ c q, (i.client.connector.send c q).Takes s (answers q)) :
    ∃ t e, Course Work.alone ctx i w t e ∧
      Timetable ctx i w d s got answers t e.outcome e.world := by
  rcases readied_or_unready ctx i w with ⟨p, w₁, hready⟩ | ⟨x, w₁, hunready⟩
  · have hundisturbed := keeps_undisturbed hkeeps hready
    rcases taking_cases hkeeps hahead hget hclear hready with ⟨hdone, hreason, hrun⟩ |
      ⟨t, w₂, ht, hlt, hle, hrun, hclock₂, hreason⟩ |
      ⟨r, w₂, hgot, hin, hrun, hticks₂, hahead₂, hdone₂, hstop₂, hreason₂, hdue₂⟩
    · obtain ⟨t, ht, hle⟩ := CallContext.stop?_of_signalled hdone
      have hrow : Timetable ctx i w d s got answers _ _ w₁.takePlace.quiet :=
        .done hready ht (hundisturbed.ticks ▸ hle) hundisturbed.clock
          ((World.dials_quiet _).trans hundisturbed.dials)
      rw [← hreason] at hrow
      exact ⟨_, _, .exit (.finished hready (Work.run_eq_some_iff.mp hrun)), hrow⟩
    · have hrow : Timetable ctx i w d s got answers _ _ w₂.quiet :=
        .stopped hready ht hlt hle hclock₂
      rw [← hreason] at hrow
      exact ⟨_, _, .exit (.finished hready (Work.run_eq_some_iff.mp hrun)), hrow⟩
    · have htaking := Work.run_eq_some_iff.mp hrun
      have hclock₂ : w₂.quiet.clock = .atTick (w.ticks + d) := hahead₂.onTick.eq_atTick hticks₂
      obtain q | f | c := r
      · exact ⟨_, _, .exit (.dialPanic hready htaking), .dialPanic hready hin hgot hclock₂⟩
      · exact ⟨_, _, .exit (.undialed hready htaking), .unconnected hready hin hgot hclock₂⟩
      · refine exists_timetable_sent hready (hready.limit_eq hkeeps) hgot htaking hticks₂ hahead₂
          hdone₂ hstop₂ hreason₂ hin (hsend c p.request) ?_
        rw [hdue₂]
        exact hclear _ (by simp)
  · have hundisturbed := hunready.keeps .refl (fun _ _ _ h h' => h.trans h') .logged hkeeps
    exact ⟨_, _, .exit (.unready hunready), .unready hunready hundisturbed.clock
      ((World.dials_quiet _).trans hundisturbed.dials)⟩

omit hkeeps hahead hget hclear in
/-- The connection that a readied request waits for is the one its call was to wait for. -/
theorem timely_get_readied (ctx : CallContext) {dialed : Dialer.DialResult → Prop}
    (hw : w.OnTick) (hidle : w.lock.Idle)
    (hconnect : ∀ address tls, (i.client.connector.connect address tls).Takes d dialed)
    (h : w.Undisturbed w₁) :
    ∃ r w', (i.client.toDialer.get ctx.span).run.Timely w₁.takePlace r w' ∧
      w'.ticks = w.ticks + Dialer.waitFor w d ∧ i.client.toDialer.Gets w dialed r := by
  obtain ⟨r, w', hr, hticks, hgets⟩ := Dialer.timely_get (d := i.client.toDialer)
    (w := w₁.takePlace) ctx.span (h.onTick hw) (h.lock ▸ hidle) h.connection (hconnect _ _)
  exact ⟨r, w', hr, h.ticks ▸ hticks, hgets⟩

end Exchange

end CallChain
