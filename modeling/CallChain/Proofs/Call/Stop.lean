import CallChain.Call.Context
import CallChain.Proofs.Work.Clock
import CallChain.Work.Attempt

/-!
# When a context stops work

A context stops work at the tick of its deadline or when its token is cancelled, whichever comes first;
the agenda of the world tells when that will be (`CallContext.stop?`).  `Attempt.run_unlessBefore` times
a race between a context and work whose own time is known.  At equal ticks a deadline goes before the
work and the work before a cancellation.
-/

set_option autoImplicit false

namespace CallChain

/-- Whether one token is cancelled along with another. -/
def Token.cancels (t t' : Token) : Bool :=
  match t.lineage with
  | [] => false
  | n :: _ => t'.lineage.contains n

namespace World

variable {w w₁ : World} {g : Guard} {t : Tick}

theorem isCancelled_cancel (w : World) (t t' : Token) :
    (w.cancel t).isCancelled t' = (t.cancels t' || w.isCancelled t') := by
  unfold cancel Token.cancels isCancelled
  cases t.lineage with
  | nil => rfl
  | cons n parents =>
    rw [Bool.eq_iff_iff]
    simp only [List.any_eq_true, List.contains_cons, Bool.or_eq_true, beq_iff_eq,
      List.contains_iff_mem]
    constructor
    · rintro ⟨m, hm, rfl | hmem⟩
      · exact .inl hm
      · exact .inr ⟨m, hm, hmem⟩
    · rintro (hn | ⟨m, hm, hmem⟩)
      · exact ⟨n, hn, .inl rfl⟩
      · exact ⟨m, hm, .inr hmem⟩

/-- The tick at which a token will be cancelled. -/
def due? (w : World) (t : Token) : Option Tick :=
  (w.agenda.find? fun e => e.2.cancels t).map Prod.fst

/-- The clock is at a tick, and the cancellations to come are in order, none of them late. -/
structure Ahead (w : World) : Prop where
  onTick : w.OnTick
  sorted : w.agenda.Pairwise fun a b => a.1 ≤ b.1
  due : ∀ e ∈ w.agenda, w.ticks ≤ e.1

/-- The world in which the first cancellation to come is carried out. -/
def fire (w : World) (due : Tick) (token : Token) (rest : List (Tick × Token)) : World :=
  { w.cancel token with clock := w.clock.tickTo due, agenda := rest }

/-- A wait that is not over begins with what comes first: the time waited for or a cancellation. -/
theorem settle_of_not_holds (hg : g.holds w = false) :
    w.settle g = match w.agenda, g.earliest? with
      | [], t? => t?.map fun t => { w with clock := w.clock.tickTo t }
      | (due, token) :: rest, none => (w.fire due token rest).settle g
      | (due, token) :: rest, some t =>
        if t ≤ due then some { w with clock := w.clock.tickTo t }
        else (w.fire due token rest).settle g := by
  obtain ⟨now, cancelled, nextToken, agenda, nextPlace, lock, connection, journal, site, drawn⟩ := w
  cases agenda with
  | nil =>
    simp only [settle, settleWith, hg, Bool.false_eq_true, if_false]
    cases g.earliest? <;> rfl
  | cons e rest =>
    simp only [settle, settleWith, hg, Bool.false_eq_true, if_false]
    cases g.earliest? <;> rfl

/-- A wait that lasts longer carries out the first cancellation to come. -/
theorem settle_fire {due : Tick} {token : Token} {rest : List (Tick × Token)}
    (hagenda : w.agenda = (due, token) :: rest) (hg : g.holds w = false)
    (hdue : ∀ t, g.earliest? = some t → due < t) :
    w.settle g = (w.fire due token rest).settle g := by
  rw [settle_of_not_holds hg, hagenda]
  cases ht : g.earliest? with
  | none => rfl
  | some t => exact if_neg (Nat.not_le_of_lt (hdue t ht))

/-- A time goes before the cancellations that are not due before it. -/
theorem settle_reach (hg : g.holds w = false) (ht : g.earliest? = some t)
    (hagenda : ∀ e ∈ w.agenda, t ≤ e.1) : w.settle g = some { w with clock := w.clock.tickTo t } := by
  rw [settle_of_not_holds hg, ht]
  cases hw : w.agenda with
  | nil => rfl
  | cons e rest => exact if_pos (hagenda e (by rw [hw]; exact List.mem_cons_self))

theorem Ahead.ticks_fire (h : w.Ahead) (due : Tick) (token : Token) (rest : List (Tick × Token)) :
    (w.fire due token rest).ticks = max w.ticks due := h.onTick.ticks_tickTo due

/-- Carrying out a cancellation in time keeps the others in order. -/
theorem Ahead.fire {due : Tick} {token : Token} {rest : List (Tick × Token)} (h : w.Ahead)
    (hagenda : w.agenda = (due, token) :: rest) : (w.fire due token rest).Ahead where
  onTick := h.onTick.onTick_tickTo due
  sorted := by
    have hsorted := h.sorted
    rw [hagenda, List.pairwise_cons] at hsorted
    exact hsorted.2
  due e he := by
    have hsorted := h.sorted
    rw [hagenda, List.pairwise_cons] at hsorted
    have hnow := h.due e (by rw [hagenda]; exact List.mem_cons_of_mem _ he)
    rw [h.ticks_fire]
    exact Nat.max_le.mpr ⟨hnow, hsorted.1 e he⟩

/-- What is due first is due before everything else. -/
theorem Ahead.le_of_head {due : Tick} {token : Token} {rest : List (Tick × Token)}
    (h : w.Ahead) (hagenda : w.agenda = (due, token) :: rest) (ht : t ≤ due) :
    ∀ e ∈ w.agenda, t ≤ e.1 := by
  intro e he
  have hsorted := h.sorted
  rw [hagenda] at hsorted he
  rcases List.mem_cons.mp he with rfl | hmem
  · exact ht
  · exact Nat.le_trans ht ((List.pairwise_cons.mp hsorted).1 e hmem)

theorem due?_of_head {due : Tick} {token t' : Token} {rest : List (Tick × Token)}
    (hagenda : w.agenda = (due, token) :: rest) (hcancels : token.cancels t' = true) :
    w.due? t' = some due := by
  simp [due?, hagenda, hcancels]

theorem mem_of_due? {token : Token} {c : Tick} (h : w.due? token = some c) :
    ∃ e ∈ w.agenda, e.1 = c := by
  unfold due? at h
  obtain ⟨e, he, rfl⟩ := Option.map_eq_some_iff.mp h
  exact ⟨e, List.mem_of_find?_eq_some he, rfl⟩

end World

namespace CallContext

variable {ctx : CallContext} {w w₁ : World} {g : Guard} {t : Tick}

/-- The tick at which the timer of its deadline goes off. -/
def deadlineTick? (ctx : CallContext) : Option Tick := ctx.deadline.map Instant.tick

/-- The tick at which a call has to stop, as far as can be told. -/
def stop? (ctx : CallContext) (w : World) : Option Tick :=
  if ctx.isCancelled w then some w.ticks else Option.merge min ctx.deadlineTick? (w.due? ctx.token)

/-- The words for the stop, as far as can be told: at equal times the deadline is named. -/
def stopReason (ctx : CallContext) (w : World) : String :=
  if ctx.isCancelled w then cancelledText
  else
    match w.due? ctx.token, ctx.deadlineTick? with
    | none, _ => expiredText
    | some _, none => cancelledText
    | some c, some d => if c < d then cancelledText else expiredText

/-- Whether the call does not have to stop by the given time. -/
def Allows (ctx : CallContext) (w : World) (x : Tick) : Prop := ∀ t, ctx.stop? w = some t → x < t

theorem earliest?_doneGuard (ctx : CallContext) : ctx.doneGuard.earliest? = ctx.deadlineTick? := by
  unfold doneGuard deadlineTick?
  cases ctx.deadline <;> rfl

/-- What a piece of work that may be stopped waits for. -/
abbrev race (ctx : CallContext) (place : Nat) (g : Guard) : Guard :=
  .either (.since place ctx.doneGuard) g

theorem holds_race (ctx : CallContext) (place : Nat) (g : Guard) (w : World) :
    (ctx.race place g).holds w = (ctx.isSignalled w || g.holds w) := by
  rw [race, Guard.holds, Guard.holds, isSignalled]

/-- The time a race waits for is that of the work, or an earlier deadline. -/
theorem earliest?_race (hg : g.IsTimer t) (ctx : CallContext) (place : Nat) :
    ∃ m, (ctx.race place g).earliest? = some m ∧ m ≤ t ∧ (∀ d, ctx.deadlineTick? = some d → m ≤ d) ∧
      (m = t ∨ ctx.deadlineTick? = some m) := by
  simp only [Guard.earliest?, earliest?_doneGuard, hg.earliest]
  cases ctx.deadlineTick? with
  | none => exact ⟨t, rfl, Nat.le_refl t, (by rintro d ⟨⟩), .inl rfl⟩
  | some d =>
    refine ⟨min d t, rfl, Nat.min_le_right d t, fun d' h => ?_, ?_⟩
    · cases h
      exact Nat.min_le_left d t
    · rcases Nat.le_total d t with h | h
      · exact .inr (by rw [Nat.min_eq_left h])
      · exact .inl (Nat.min_eq_right h)

theorem isSignalled_eq_false_iff :
    ctx.isSignalled w = false ↔
      ctx.isCancelled w = false ∧ ∀ d, ctx.deadlineTick? = some d → w.ticks < d := by
  rw [isSignalled_eq, isCancelled]
  unfold deadlineTick?
  cases ctx.deadline with
  | none => simp
  | some d => simp

theorem stop?_of_not_signalled (hdone : ctx.isSignalled w = false) :
    ctx.stop? w = Option.merge min ctx.deadlineTick? (w.due? ctx.token) := by
  rw [stop?, (isSignalled_eq_false_iff.mp hdone).1, if_neg Bool.false_ne_true]

theorem stopReason_of_due? (hgoing₁ : ctx.isCancelled w₁ = false)
    (hgoing : ctx.isCancelled w = false) (hdue : w₁.due? ctx.token = w.due? ctx.token) :
    ctx.stopReason w₁ = ctx.stopReason w := by
  unfold stopReason
  rw [hgoing₁, hgoing, hdue]

theorem stopReason_of_deadline {d : Tick} (hgoing : ctx.isCancelled w = false)
    (hd : ctx.deadlineTick? = some d) (hdue : ∀ c, w.due? ctx.token = some c → d ≤ c) :
    ctx.stopReason w = expiredText := by
  unfold stopReason
  rw [hgoing, hd, if_neg Bool.false_ne_true]
  cases hc : w.due? ctx.token with
  | none => rfl
  | some c => exact if_neg (Nat.not_lt_of_le (hdue c hc))

theorem stopReason_of_due {c : Tick} (hc : w.due? ctx.token = some c)
    (hd : ∀ d, ctx.deadlineTick? = some d → c < d) : ctx.stopReason w = cancelledText := by
  unfold stopReason
  rw [hc]
  split
  · rfl
  · cases h : ctx.deadlineTick? with
    | none => rfl
    | some d => exact if_pos (hd d h)

theorem reason_of_cancelled (h : ctx.isCancelled w = true) : ctx.reason w = cancelledText := by
  unfold reason doneReason?
  rw [h, if_pos rfl]
  rfl

theorem reason_of_expired (hgoing : ctx.isCancelled w = false) {d : Tick}
    (hd : ctx.deadlineTick? = some d) (hle : d ≤ w.ticks) : ctx.reason w = expiredText := by
  have hexpired : ctx.isExpired w = true := by
    obtain ⟨t, ht, rfl⟩ := Option.map_eq_some_iff.mp hd
    unfold isExpired
    rw [ht]
    exact decide_eq_true (Nat.le_trans (Instant.tick_le_iff.mp hle) w.clock.ticks_le_now)
  unfold reason doneReason?
  rw [hgoing, hexpired, if_neg Bool.false_ne_true, if_pos rfl]
  rfl

/-- While a call is not done, its stop is where its cancellation leaves it. -/
theorem stop?_of_due? (hdone₁ : ctx.isSignalled w₁ = false) (hdone : ctx.isSignalled w = false)
    (hdue : w₁.due? ctx.token = w.due? ctx.token) : ctx.stop? w₁ = ctx.stop? w := by
  rw [stop?_of_not_signalled hdone₁, stop?_of_not_signalled hdone, hdue]

/-- What is before the stop is before the deadline and before the cancellation. -/
theorem lt_of_allows {x : Tick} (hdone : ctx.isSignalled w = false) (h : ctx.Allows w x) :
    (∀ d, ctx.deadlineTick? = some d → x < d) ∧ ∀ c, w.due? ctx.token = some c → x < c := by
  rw [Allows, stop?_of_not_signalled hdone] at h
  cases hd : ctx.deadlineTick? with
  | none =>
    rw [hd, Option.merge_none_left] at h
    exact ⟨fun d hd => (by cases hd), h⟩
  | some d =>
    cases hc : w.due? ctx.token with
    | none =>
      rw [hd, hc] at h
      refine ⟨?_, fun c hc => by cases hc⟩
      rintro _ ⟨⟩
      exact h d rfl
    | some c =>
      rw [hd, hc] at h
      obtain ⟨hxd, hxc⟩ := Nat.lt_min.mp (h (min d c) rfl)
      constructor
      · rintro _ ⟨⟩
        exact hxd
      · rintro _ ⟨⟩
        exact hxc

/-- What is done without a cancellation is past its deadline. -/
theorem exists_deadline_of_signalled (hgoing : ctx.isCancelled w = false)
    (hdone : ctx.isSignalled w = true) : ∃ d, ctx.deadlineTick? = some d ∧ d ≤ w.ticks := by
  rw [isSignalled_eq, hgoing, Bool.false_or] at hdone
  unfold deadlineTick?
  cases hd : ctx.deadline with
  | none =>
    rw [hd] at hdone
    cases hdone
  | some d =>
    rw [hd] at hdone
    exact ⟨d.tick, rfl, of_decide_eq_true hdone⟩

/-- A context that is done should have stopped its work by now. -/
theorem stop?_of_signalled (hdone : ctx.isSignalled w = true) :
    ∃ t, ctx.stop? w = some t ∧ t ≤ w.ticks := by
  unfold stop?
  cases hgoing : ctx.isCancelled w with
  | true => exact ⟨w.ticks, rfl, Nat.le_refl _⟩
  | false =>
    obtain ⟨d, hd, hle⟩ := exists_deadline_of_signalled hgoing hdone
    rw [hd]
    cases w.due? ctx.token with
    | none => exact ⟨d, rfl, hle⟩
    | some c => exact ⟨min d c, rfl, Nat.le_trans (Nat.min_le_left d c) hle⟩

/-- There is no stop past the deadline. -/
theorem stop?_le {d : Tick} (hd : ctx.deadlineTick? = some d) :
    ∃ t, ctx.stop? w = some t ∧ t ≤ max w.ticks d := by
  unfold stop?
  split
  · exact ⟨_, rfl, Nat.le_max_left _ _⟩
  · rw [hd]
    cases w.due? ctx.token with
    | none => exact ⟨d, rfl, Nat.le_max_right _ _⟩
    | some c => exact ⟨_, rfl, Nat.le_trans (Nat.min_le_left d c) (Nat.le_max_right _ _)⟩

/-- A call that does not have to stop by some time to come is not done. -/
theorem Allows.not_signalled {x : Tick} (h : ctx.Allows w x) (hx : w.ticks ≤ x) :
    ctx.isSignalled w = false := by
  cases hdone : ctx.isSignalled w with
  | false => rfl
  | true =>
    obtain ⟨t, ht, hle⟩ := stop?_of_signalled hdone
    exact absurd (Nat.lt_of_lt_of_le (h t ht) hle) (Nat.not_lt_of_le hx)

theorem Allows.lt_deadline {x d : Tick} (h : ctx.Allows w x) (hx : w.ticks ≤ x)
    (hd : ctx.deadlineTick? = some d) : x < d :=
  (lt_of_allows (h.not_signalled hx) h).1 d hd

/-- The stop is the deadline or the cancellation. -/
theorem eq_of_stop? (hgoing : ctx.isCancelled w = false) (h : ctx.stop? w = some t) :
    ctx.deadlineTick? = some t ∨ w.due? ctx.token = some t := by
  rw [stop?, hgoing, if_neg Bool.false_ne_true] at h
  cases hd : ctx.deadlineTick? with
  | none =>
    rw [hd, Option.merge_none_left] at h
    exact .inr h
  | some d =>
    cases hc : w.due? ctx.token with
    | none =>
      rw [hd, hc] at h
      exact .inl h
    | some c =>
      rw [hd, hc] at h
      obtain rfl : min d c = t := Option.some.inj h
      rcases Nat.le_total d c with hdc | hdc
      · exact .inl (by rw [Nat.min_eq_left hdc])
      · exact .inr (by rw [Nat.min_eq_right hdc])

/-- Before a cancellation, only the deadline stops a call. -/
theorem deadline_of_stop? {x : Tick} (hgoing : ctx.isCancelled w = false)
    (hlater : ∀ c, w.due? ctx.token = some c → x < c) (ht : ctx.stop? w = some t) (hle : t ≤ x) :
    ctx.deadlineTick? = some t :=
  (eq_of_stop? hgoing ht).resolve_right fun hc => absurd (hlater t hc) (Nat.not_lt_of_le hle)

theorem stopReason_of_stop? {x : Tick} (hgoing : ctx.isCancelled w = false)
    (hlater : ∀ c, w.due? ctx.token = some c → x < c) (ht : ctx.stop? w = some t) (hle : t ≤ x) :
    ctx.stopReason w = expiredText :=
  stopReason_of_deadline hgoing (deadline_of_stop? hgoing hlater ht hle) fun c hc =>
    Nat.le_trans hle (Nat.le_of_lt (hlater c hc))

/-- What stops a call that is not done is still to come, if no cancellation is due now. -/
theorem lt_stop? (hdone : ctx.isSignalled w = false) (hahead : w.Ahead)
    (hdue : w.due? ctx.token ≠ some w.ticks) (h : ctx.stop? w = some t) : w.ticks < t := by
  rcases eq_of_stop? (isSignalled_eq_false_iff.mp hdone).1 h with hd | hc
  · exact (isSignalled_eq_false_iff.mp hdone).2 t hd
  · obtain ⟨e, he, rfl⟩ := World.mem_of_due? hc
    refine Nat.lt_of_le_of_ne (hahead.due e he) fun heq => hdue ?_
    rw [hc, heq]

/-- A call that is done has the reason of its stop. -/
theorem reason_of_signalled (hahead : w.Ahead) (hdone : ctx.isSignalled w = true) :
    ctx.reason w = ctx.stopReason w := by
  cases hgoing : ctx.isCancelled w with
  | true =>
    rw [reason_of_cancelled hgoing, stopReason, hgoing, if_pos rfl]
  | false =>
    obtain ⟨d, hd, hle⟩ := exists_deadline_of_signalled hgoing hdone
    rw [reason_of_expired hgoing hd hle, stopReason_of_deadline hgoing hd]
    intro c hc
    obtain ⟨e, he, rfl⟩ := World.mem_of_due? hc
    exact Nat.le_trans hle (hahead.due e he)

/-- A cancellation of another token, carried out before the deadline, stops nothing. -/
theorem fire_of_other {due : Tick} {token : Token} {rest : List (Tick × Token)} (hahead : w.Ahead)
    (hagenda : w.agenda = (due, token) :: rest) (hother : token.cancels ctx.token = false)
    (hdone : ctx.isSignalled w = false) (hd : ∀ d, ctx.deadlineTick? = some d → due < d) :
    ctx.isSignalled (w.fire due token rest) = false ∧
      (w.fire due token rest).due? ctx.token = w.due? ctx.token := by
  rw [isSignalled_eq_false_iff] at hdone
  obtain ⟨hcancelled, hexpired⟩ := hdone
  constructor
  · refine isSignalled_eq_false_iff.mpr ⟨?_, fun d h => ?_⟩
    · show (w.cancel token).isCancelled ctx.token = false
      rw [World.isCancelled_cancel, hother]
      exact hcancelled
    · rw [hahead.ticks_fire]
      exact Nat.max_lt.mpr ⟨hexpired d h, hd d h⟩
  · show (rest.find? _).map Prod.fst = (w.agenda.find? _).map Prod.fst
    rw [hagenda, List.find?_cons_of_neg (by rw [hother]; exact Bool.false_ne_true)]

/-- A cancellation of the call, carried out before the deadline, stops it. -/
theorem fire_of_own {due : Tick} {token : Token} {rest : List (Tick × Token)} (hahead : w.Ahead)
    (hagenda : w.agenda = (due, token) :: rest) (hown : token.cancels ctx.token = true)
    (hdone : ctx.isSignalled w = false) (hd : ∀ d, ctx.deadlineTick? = some d → due < d) :
    ctx.isSignalled (w.fire due token rest) = true ∧
      ctx.stop? w = some (w.fire due token rest).ticks ∧
      ctx.reason (w.fire due token rest) = ctx.stopReason w := by
  have hcancelled : ctx.isCancelled (w.fire due token rest) = true := by
    show (w.cancel token).isCancelled ctx.token = true
    rw [World.isCancelled_cancel, hown, Bool.true_or]
  have hdue := World.due?_of_head hagenda hown
  refine ⟨?_, ?_, ?_⟩
  · rw [isSignalled_eq, hcancelled, Bool.true_or]
  · have hnow : w.ticks ≤ due := hahead.due (due, token) (by rw [hagenda]; exact List.mem_cons_self)
    rw [hahead.ticks_fire, Nat.max_eq_right hnow, stop?_of_not_signalled hdone, hdue]
    cases hdeadline : ctx.deadlineTick? with
    | none => rfl
    | some d => exact congrArg some (Nat.min_eq_right (Nat.le_of_lt (hd d hdeadline)))
  · rw [reason_of_cancelled hcancelled, stopReason_of_due hdue hd]

/-- Before the time of the work, a race waits for what comes first. -/
theorem race_waits (place : Nat) (hg : g.IsTimer t) (ht : w.ticks < t)
    (hdone : ctx.isSignalled w = false) : (ctx.race place g).holds w = false := by
  rw [holds_race, hdone, hg.holds]
  exact decide_eq_false (Nat.not_le_of_lt ht)

/-- With no cancellation due before it, the time of the work is there before the deadline. -/
theorem settle_race_reached (place : Nat) (hg : g.IsTimer t) (ht : w.ticks < t) (hahead : w.Ahead)
    (hdone : ctx.isSignalled w = false) (hm : (ctx.race place g).earliest? = some t)
    (hd : ∀ d, ctx.deadlineTick? = some d → t < d) (hagenda : ∀ e ∈ w.agenda, t ≤ e.1) :
    ∃ w₁, w.settle (ctx.race place g) = some w₁ ∧ w.settle g = some w₁ ∧ w₁.ticks = t ∧ w₁.Ahead ∧
      ctx.isSignalled w₁ = false ∧ w₁.due? ctx.token = w.due? ctx.token := by
  have hticks := hahead.onTick.ticks_tickTo_of_le (Nat.le_of_lt ht)
  refine ⟨{ w with clock := w.clock.tickTo t },
    World.settle_reach (race_waits place hg ht hdone) hm hagenda,
    World.settle_reach (hg.waits ht) hg.earliest hagenda, hticks,
    ⟨hahead.onTick.onTick_tickTo t, hahead.sorted, ?_⟩, ?_, rfl⟩
  · rw [World.ticks, hticks]
    exact hagenda
  · refine isSignalled_eq_false_iff.mpr ⟨(isSignalled_eq_false_iff.mp hdone).1, fun d h => ?_⟩
    rw [World.ticks, hticks]
    exact hd d h

/-- A wait that ends before the context stops the work ends as if there were no context. -/
theorem settle_race (place : Nat) (hg : g.IsTimer t) (ht : w.ticks < t) (hahead : w.Ahead)
    (hdone : ctx.isSignalled w = false) (hd : ∀ d, ctx.deadlineTick? = some d → t < d)
    (hc : ∀ c, w.due? ctx.token = some c → t ≤ c) :
    ∃ w₁, w.settle (ctx.race place g) = some w₁ ∧ w.settle g = some w₁ ∧ w₁.ticks = t ∧ w₁.Ahead ∧
      ctx.isSignalled w₁ = false ∧ w₁.due? ctx.token = w.due? ctx.token := by
  obtain ⟨m, hm, hmt, -, hor⟩ := earliest?_race hg ctx place
  obtain rfl : m = t := hor.resolve_right fun h => absurd (hd m h) (Nat.not_lt_of_le hmt)
  -- Either nothing is due before the time, or what is due first stops something else.
  induction hagenda : w.agenda generalizing w with
  | nil =>
    exact settle_race_reached place hg ht hahead hdone hm hd
      (by rw [hagenda]; exact fun e he => by cases he)
  | cons e rest ih =>
    obtain ⟨due, token⟩ := e
    by_cases hdue : m ≤ due
    · exact settle_race_reached place hg ht hahead hdone hm hd (hahead.le_of_head hagenda hdue)
    · have hlt : due < m := Nat.lt_of_not_le hdue
      have hother : token.cancels ctx.token = false :=
        Bool.eq_false_iff.mpr fun hcancels => hdue (hc due (World.due?_of_head hagenda hcancels))
      obtain ⟨hdone', hdue'⟩ := fire_of_other hahead hagenda hother hdone
        fun d h => Nat.lt_trans hlt (hd d h)
      obtain ⟨w₁, hrace, hsettle, hnow, hahead₁, hdone₁, hdue₁⟩ :=
        ih (w := w.fire due token rest) (hahead.fire hagenda) hdone'
          (by rw [hahead.ticks_fire]; exact Nat.max_lt.mpr ⟨ht, hlt⟩)
          (by rw [hdue']; exact hc) rfl
      refine ⟨w₁, ?_, ?_, hnow, hahead₁, hdone₁, hdue₁.trans hdue'⟩
      · rw [World.settle_fire hagenda (race_waits place hg ht hdone) fun t h => by
          rw [hm] at h; cases h; exact hlt]
        exact hrace
      · rw [World.settle_fire hagenda (hg.waits ht) fun t h => by
          rw [hg.earliest] at h; cases h; exact hlt]
        exact hsettle

/-- With no cancellation due before it, a deadline that a race waits for stops the work. -/
theorem settle_race_expired {m : Tick} (place : Nat) (hg : g.IsTimer t) (ht : w.ticks < t)
    (hahead : w.Ahead) (hdone : ctx.isSignalled w = false)
    (hm : (ctx.race place g).earliest? = some m) (hdeadline : ctx.deadlineTick? = some m)
    (hagenda : ∀ e ∈ w.agenda, m ≤ e.1) :
    ∃ w₁, w.settle (ctx.race place g) = some w₁ ∧ ctx.isSignalled w₁ = true ∧
      ctx.stop? w = some w₁.ticks ∧ ctx.reason w₁ = ctx.stopReason w := by
  obtain ⟨hgoing, hlater⟩ := isSignalled_eq_false_iff.mp hdone
  have hticks := hahead.onTick.ticks_tickTo_of_le (Nat.le_of_lt (hlater m hdeadline))
  have hdue (c : Tick) (h : w.due? ctx.token = some c) : m ≤ c := by
    obtain ⟨e, he, rfl⟩ := World.mem_of_due? h
    exact hagenda e he
  refine ⟨{ w with clock := w.clock.tickTo m },
    World.settle_reach (race_waits place hg ht hdone) hm hagenda, ?_, ?_, ?_⟩
  · rw [← Bool.not_eq_false]
    intro hfree
    exact absurd hticks (Nat.ne_of_lt ((isSignalled_eq_false_iff.mp hfree).2 m hdeadline))
  · rw [stop?_of_not_signalled hdone, hdeadline, World.ticks, hticks]
    cases hc : w.due? ctx.token with
    | none => rfl
    | some c => exact congrArg some (Nat.min_eq_left (hdue c hc))
  · rw [stopReason_of_deadline hgoing hdeadline hdue]
    exact reason_of_expired hgoing hdeadline (Clock.le_ticks_tickTo m w.clock)

/-- A wait in which the context stops the work ends when it does. -/
theorem settle_race_stopped (place : Nat) (hg : g.IsTimer t) (ht : w.ticks < t) (hahead : w.Ahead)
    (hdone : ctx.isSignalled w = false)
    (hstop : (∃ d, ctx.deadlineTick? = some d ∧ d ≤ t) ∨ ∃ c, w.due? ctx.token = some c ∧ c < t) :
    ∃ w₁, w.settle (ctx.race place g) = some w₁ ∧ ctx.isSignalled w₁ = true ∧
      ctx.stop? w = some w₁.ticks ∧ ctx.reason w₁ = ctx.stopReason w := by
  obtain ⟨m, hm, hmt, hmd, hor⟩ := earliest?_race hg ctx place
  -- If no cancellation is due before what the race waits for, that is the deadline.
  have hdeadline (w : World)
      (hstop : (∃ d, ctx.deadlineTick? = some d ∧ d ≤ t) ∨ ∃ c, w.due? ctx.token = some c ∧ c < t)
      (hagenda : ∀ e ∈ w.agenda, m ≤ e.1) : ctx.deadlineTick? = some m := by
    rcases hor with rfl | h
    · rcases hstop with ⟨d, hd, hdt⟩ | ⟨c, hc, hct⟩
      · rw [hd, Nat.le_antisymm hdt (hmd d hd)]
      · obtain ⟨e, he, rfl⟩ := World.mem_of_due? hc
        exact absurd (hagenda e he) (Nat.not_le_of_lt hct)
    · exact h
  -- A cancellation that is due before that stops this call or another one.
  induction hagenda : w.agenda generalizing w with
  | nil =>
    have hnone : ∀ e ∈ w.agenda, m ≤ e.1 := by rw [hagenda]; exact fun e he => by cases he
    exact settle_race_expired place hg ht hahead hdone hm (hdeadline w hstop hnone) hnone
  | cons e rest ih =>
    obtain ⟨due, token⟩ := e
    by_cases hdue : m ≤ due
    · have hall := hahead.le_of_head hagenda hdue
      exact settle_race_expired place hg ht hahead hdone hm (hdeadline w hstop hall) hall
    · have hlt : due < m := Nat.lt_of_not_le hdue
      have hbefore (d : Tick) (h : ctx.deadlineTick? = some d) : due < d :=
        Nat.lt_of_lt_of_le hlt (hmd d h)
      have hfire := World.settle_fire (w := w) hagenda (race_waits place hg ht hdone)
        fun t h => by rw [hm] at h; cases h; exact hlt
      rw [hfire]
      cases hcancels : token.cancels ctx.token with
      | true =>
        obtain ⟨hdone', hrest⟩ := fire_of_own hahead hagenda hcancels hdone hbefore
        refine ⟨w.fire due token rest, World.settle_of_holds ?_, hdone', hrest⟩
        rw [holds_race, hdone', Bool.true_or]
      | false =>
        obtain ⟨hdone', hdue'⟩ := fire_of_other hahead hagenda hcancels hdone hbefore
        obtain ⟨w₁, hrace, hdone₁, hstop₁, hreason₁⟩ := ih (w := w.fire due token rest)
          (by rw [hahead.ticks_fire]; exact Nat.max_lt.mpr ⟨ht, Nat.lt_of_lt_of_le hlt hmt⟩)
          (hahead.fire hagenda) hdone'
          (by rw [hdue']; exact hstop) rfl
        refine ⟨w₁, hrace, hdone₁, ?_, ?_⟩
        · rw [stop?_of_not_signalled hdone, ← hdue', ← stop?_of_not_signalled hdone', hstop₁]
        · rw [hreason₁]
          exact stopReason_of_due? (isSignalled_eq_false_iff.mp hdone').1
            (isSignalled_eq_false_iff.mp hdone).1 hdue'

end CallContext

namespace World.SameTime

variable {w w' : World} (h : w.SameTime w')

include h

theorem ahead (hahead : w.Ahead) : w'.Ahead := by
  obtain ⟨honTick, hsorted, hdue⟩ := hahead
  rw [← h.agenda] at hsorted hdue
  rw [← h.ticks] at hdue
  exact ⟨h.onTick honTick, hsorted, hdue⟩

theorem due? (token : Token) : w'.due? token = w.due? token := by
  unfold World.due?
  rw [h.agenda]

theorem isSignalled (ctx : CallContext) : ctx.isSignalled w' = ctx.isSignalled w := by
  rw [CallContext.isSignalled_eq, CallContext.isSignalled_eq]
  unfold CallContext.isCancelled World.isCancelled
  rw [h.ticks, h.cancelled]

theorem reason (ctx : CallContext) : ctx.reason w' = ctx.reason w := by
  unfold CallContext.reason CallContext.doneReason? CallContext.isCancelled CallContext.isExpired
    World.isCancelled World.now
  rw [h.clock, h.cancelled]

theorem stopReason (ctx : CallContext) : ctx.stopReason w' = ctx.stopReason w := by
  unfold CallContext.stopReason CallContext.isCancelled World.isCancelled
  rw [h.cancelled, h.due?]

theorem stop? (ctx : CallContext) : ctx.stop? w' = ctx.stop? w := by
  unfold CallContext.stop? CallContext.isCancelled World.isCancelled
  rw [h.ticks, h.cancelled, h.due?]

end World.SameTime

namespace Work

variable {α : Type} {w w' : World} {g stop : Guard} {d : World → World} {next : Work α}

/-- What is there is not waited for. -/
theorem run_interruptedBy_there (hg : g.holds w = true) :
    ((Work.wait g d next).interruptedBy stop).run w = (next.interruptedBy stop).run w := by
  show (if g.holds w then next.interruptedBy stop else _).run w = _
  rw [if_pos hg]

/-- Work that waits goes on if the guard does not hold by then, and is given up if it does. -/
theorem run_interruptedBy_wait {w₁ : World} (hg : g.holds w = false)
    (hs : w.settle (.either stop g) = some w₁) :
    ((Work.wait g d next).interruptedBy stop).run w =
      if stop.holds w₁ then some (none, d w₁) else (next.interruptedBy stop).run w₁ := by
  show (if g.holds w then next.interruptedBy stop else _).run w = _
  rw [if_neg (by rw [hg]; exact Bool.false_ne_true), run, hs]
  show (if stop.holds w₁ then _ else next.interruptedBy stop).run w₁ = _
  split <;> rfl

namespace Timely

variable {p : Work α} {a : α} {ctx : CallContext}

/-- Work that ends before the context stops it ends as if there were no context. -/
theorem run_interruptedBy (h : p.Timely w a w') (place : Nat) (hahead : w.Ahead)
    (hdone : ctx.isSignalled w = false) (hstop : ctx.Allows w w'.ticks) :
    (p.interruptedBy (.since place ctx.doneGuard)).run w = some (some a, w') ∧ w'.Ahead ∧
      ctx.isSignalled w' = false ∧ w'.due? ctx.token = w.due? ctx.token := by
  induction h with
  | done a w => exact ⟨rfl, hahead, hdone, rfl⟩
  | act hsame _ ih =>
    rw [CallContext.Allows, ← hsame.stop? ctx] at hstop
    rw [← hsame.due?]
    exact ih (hsame.ahead hahead) ((hsame.isSignalled ctx).trans hdone) hstop
  | there hg _ ih =>
    rw [run_interruptedBy_there hg]
    exact ih hahead hdone hstop
  | @timer g d next w w₁ w' a t hw hg ht _ hs h ih =>
    have htw : t ≤ w'.ticks := (clock_of_settle hw hg ht hs).1 ▸ h.ticks_le
    obtain ⟨hd, hc⟩ := CallContext.lt_of_allows hdone hstop
    obtain ⟨w₂, hrace, hs₂, -, hahead₂, hdone₂, hdue₂⟩ :=
      CallContext.settle_race place hg ht hahead hdone
        (fun d h => Nat.lt_of_le_of_lt htw (hd d h))
        fun c h => Nat.le_of_lt (Nat.lt_of_le_of_lt htw (hc c h))
    -- The race and the plain wait end in the same world, so the induction goes on from there.
    obtain rfl : w₁ = w₂ := Option.some.inj (hs.symm.trans hs₂)
    rw [CallContext.Allows, ← CallContext.stop?_of_due? hdone₂ hdone hdue₂] at hstop
    rw [← hdue₂]
    rw [run_interruptedBy_wait (hg.waits ht) hrace, Guard.holds, ← CallContext.isSignalled,
      if_neg (by rw [hdone₂]; exact Bool.false_ne_true)]
    exact ih hahead₂ hdone₂ hstop

/-- Work that would end when the context has stopped it is given up at the stop. -/
theorem run_interruptedBy_none (h : p.Timely w a w') (place : Nat) (hahead : w.Ahead)
    (hdone : ctx.isSignalled w = false) (hdue : w.due? ctx.token ≠ some w'.ticks) {s : Tick}
    (hs : ctx.stop? w = some s) (hsw : s ≤ w'.ticks) :
    ∃ w₁, (p.interruptedBy (.since place ctx.doneGuard)).run w = some (none, w₁) ∧
      w₁.clock = .atTick s ∧ ctx.reason w₁ = ctx.stopReason w := by
  induction h with
  | done a w =>
    -- Nothing that stops the call is there yet, and what is due now was excluded.
    rcases CallContext.eq_of_stop? (CallContext.isSignalled_eq_false_iff.mp hdone).1 hs with hd | hc
    · exact absurd hsw (Nat.not_le_of_lt ((CallContext.isSignalled_eq_false_iff.mp hdone).2 s hd))
    · obtain ⟨e, he, rfl⟩ := World.mem_of_due? hc
      exact absurd (by rw [hc, Nat.le_antisymm hsw (hahead.due e he)]) hdue
  | act hsame _ ih =>
    rw [← hsame.stop? ctx] at hs
    rw [← hsame.due?] at hdue
    rw [← hsame.stopReason ctx]
    exact ih (hsame.ahead hahead) ((hsame.isSignalled ctx).trans hdone) hdue hs hsw
  | there hg _ ih =>
    rw [run_interruptedBy_there hg]
    exact ih hahead hdone hdue hs hsw
  | @timer g d next w w₁ w' a t _ hg ht hd hsettle h ih =>
    by_cases hstop : (∃ d, ctx.deadlineTick? = some d ∧ d ≤ t) ∨ ∃ c, w.due? ctx.token = some c ∧ c < t
    · obtain ⟨w₂, hrace, hdone₂, hs₂, hreason₂⟩ :=
        CallContext.settle_race_stopped place hg ht hahead hdone hstop
      rw [run_interruptedBy_wait (hg.waits ht) hrace, Guard.holds, ← CallContext.isSignalled,
        if_pos hdone₂]
      have hclock : w₂.clock = .atTick s :=
        (World.onTick_settle hahead.onTick hrace).eq_atTick (Option.some.inj (hs₂.symm.trans hs))
      exact ⟨d w₂, rfl, (hd w₂).clock.trans hclock, ((hd w₂).reason ctx).trans hreason₂⟩
    · rw [not_or] at hstop
      obtain ⟨w₂, hrace, hs₂, -, hahead₂, hdone₂, hdue₂⟩ :=
        CallContext.settle_race place hg ht hahead hdone
          (fun d h => Nat.lt_of_not_le fun hd => hstop.1 ⟨d, h, hd⟩)
          fun c h => Nat.le_of_not_lt fun hc => hstop.2 ⟨c, h, hc⟩
      obtain rfl : w₁ = w₂ := Option.some.inj (hsettle.symm.trans hs₂)
      rw [run_interruptedBy_wait (hg.waits ht) hrace, Guard.holds, ← CallContext.isSignalled,
        if_neg (by rw [hdone₂]; exact Bool.false_ne_true),
        ← CallContext.stopReason_of_due? (CallContext.isSignalled_eq_false_iff.mp hdone₂).1
          (CallContext.isSignalled_eq_false_iff.mp hdone).1 hdue₂]
      refine ih hahead₂ hdone₂ ?_ ?_ hsw
      · rw [hdue₂]
        exact hdue
      · rw [CallContext.stop?_of_not_signalled hdone₂, hdue₂,
          ← CallContext.stop?_of_not_signalled hdone]
        exact hs

end Timely

end Work

namespace Attempt

variable {α : Type} {t : Attempt α} {w w' : World} {r : Except Panic α} {ctx : CallContext}

/-- Work is not begun once the context is done. -/
theorem run_unlessBefore_signalled (hdone : ctx.isSignalled w = true) :
    (unlessBefore ctx.doneGuard t).run.run w = some (.ok none, w.takePlace) := by
  have hrun : (Work.unlessBefore ctx.doneGuard t.run).run w = some (none, w.takePlace) := by
    show (if ctx.doneGuard.holds w then Work.done none else _).run w.takePlace = _
    rw [← CallContext.isSignalled, if_pos hdone]
    rfl
  show ((Work.unlessBefore ctx.doneGuard t.run).bind fun o => .done (outcome o)).run w = _
  rw [Work.run_bind, hrun]
  rfl

theorem run_unlessBefore_eq (hdone : ctx.isSignalled w = false) :
    (unlessBefore ctx.doneGuard t).run.run w =
      ((t.run.interruptedBy (.since w.nextPlace ctx.doneGuard)).run w.takePlace).map fun x =>
        (outcome x.1, x.2) := by
  have hrun : (Work.unlessBefore ctx.doneGuard t.run).run w =
      (t.run.interruptedBy (.since w.nextPlace ctx.doneGuard)).run w.takePlace := by
    show (if ctx.doneGuard.holds w then Work.done none else _).run w.takePlace = _
    rw [← CallContext.isSignalled, if_neg (by rw [hdone]; exact Bool.false_ne_true)]
  show ((Work.unlessBefore ctx.doneGuard t.run).bind fun o => .done (outcome o)).run w = _
  rw [Work.run_bind, hrun]
  cases (t.run.interruptedBy (.since w.nextPlace ctx.doneGuard)).run w.takePlace <;> rfl

/-- Work that ends before the context stops it keeps its outcome. -/
theorem run_unlessBefore (h : t.run.Timely w.takePlace r w') (hahead : w.Ahead)
    (hdone : ctx.isSignalled w = false) (hstop : ctx.Allows w w'.ticks) :
    (unlessBefore ctx.doneGuard t).run.run w = some (r.map some, w') ∧ w'.Ahead ∧
      ctx.isSignalled w' = false ∧ w'.due? ctx.token = w.due? ctx.token := by
  have hsame := World.SameTime.takePlace w
  rw [CallContext.Allows, ← hsame.stop? ctx] at hstop
  rw [← hsame.due?]
  obtain ⟨hrun, hrest⟩ := h.run_interruptedBy w.nextPlace (hsame.ahead hahead)
    ((hsame.isSignalled ctx).trans hdone) hstop
  refine ⟨?_, hrest⟩
  rw [run_unlessBefore_eq hdone, hrun]
  cases r <;> rfl

/-- Work that would end when the context has stopped it is given up at the stop. -/
theorem run_unlessBefore_none (h : t.run.Timely w.takePlace r w') (hahead : w.Ahead)
    (hdone : ctx.isSignalled w = false) (hdue : w.due? ctx.token ≠ some w'.ticks) {s : Tick}
    (hs : ctx.stop? w = some s) (hsw : s ≤ w'.ticks) :
    ∃ w₁, (unlessBefore ctx.doneGuard t).run.run w = some (.ok none, w₁) ∧ w₁.clock = .atTick s ∧
      ctx.reason w₁ = ctx.stopReason w := by
  have hsame := World.SameTime.takePlace w
  rw [← hsame.stop? ctx] at hs
  rw [← hsame.due?] at hdue
  rw [← hsame.stopReason ctx]
  obtain ⟨w₁, hrun, hrest⟩ := h.run_interruptedBy_none w.nextPlace (hsame.ahead hahead)
    ((hsame.isSignalled ctx).trans hdone) hdue hs hsw
  refine ⟨w₁, ?_, hrest⟩
  rw [run_unlessBefore_eq hdone, hrun]
  rfl

/-- A race with a context is over before it begins, lost to the context, or won, if no cancellation falls
on its beginning or on the end of the work. -/
theorem unlessBefore_cases (h : t.run.Timely w.takePlace r w') (hahead : w.Ahead)
    (hnow : w.due? ctx.token ≠ some w.ticks) (hend : w.due? ctx.token ≠ some w'.ticks) :
    (ctx.isSignalled w = true ∧ ctx.reason w = ctx.stopReason w ∧
        (unlessBefore ctx.doneGuard t).run.run w = some (.ok none, w.takePlace)) ∨
      (∃ s w₁, ctx.stop? w = some s ∧ w.ticks < s ∧ s ≤ w'.ticks ∧
        (unlessBefore ctx.doneGuard t).run.run w = some (.ok none, w₁) ∧ w₁.clock = .atTick s ∧
        ctx.reason w₁ = ctx.stopReason w) ∨
      (ctx.Allows w w'.ticks ∧
        (unlessBefore ctx.doneGuard t).run.run w = some (r.map some, w') ∧ w'.Ahead ∧
        ctx.isSignalled w' = false ∧ ctx.stop? w' = ctx.stop? w ∧ ctx.stopReason w' = ctx.stopReason w ∧
        w'.due? ctx.token = w.due? ctx.token) := by
  cases hdone : ctx.isSignalled w with
  | true =>
    exact .inl ⟨rfl, CallContext.reason_of_signalled hahead hdone, run_unlessBefore_signalled hdone⟩
  | false =>
    by_cases hin : ctx.Allows w w'.ticks
    · obtain ⟨hrun, hahead', hdone', hdue'⟩ := run_unlessBefore h hahead hdone hin
      exact .inr (.inr ⟨hin, hrun, hahead', hdone', CallContext.stop?_of_due? hdone' hdone hdue',
        CallContext.stopReason_of_due? (CallContext.isSignalled_eq_false_iff.mp hdone').1
          (CallContext.isSignalled_eq_false_iff.mp hdone).1 hdue', hdue'⟩)
    · unfold CallContext.Allows at hin
      simp only [Classical.not_forall, Nat.not_lt] at hin
      obtain ⟨s, hs, hle⟩ := hin
      obtain ⟨w₁, hrun, hrest⟩ := run_unlessBefore_none h hahead hdone hend hs hle
      exact .inr (.inl ⟨s, w₁, hs, CallContext.lt_stop? hdone hahead hnow hs, hle, hrun, hrest⟩)

end Attempt

end CallChain
