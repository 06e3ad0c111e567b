import CallChain.Proofs.Work.Ends
import CallChain.Work.Attempt

/-!
# How long work takes

Work that runs alone moves the clock only where it waits for a time, and then from tick to tick.
`Work.Timely p w a w'` says that the work waits for nothing else and comes to `a` in `w'`.  Such work
has an end, and a limit cuts it off exactly when that end is at a later tick than the limit.
-/

set_option autoImplicit false

namespace CallChain

/-- Two worlds at the same time, with the same cancellations behind and ahead. -/
structure World.SameTime (w w' : World) : Prop where
  clock : w'.clock = w.clock
  cancelled : w'.cancelled = w.cancelled
  agenda : w'.agenda = w.agenda

namespace World.SameTime

variable {w w₁ w' : World}

theorem refl (w : World) : w.SameTime w := ⟨rfl, rfl, rfl⟩

theorem trans (h : w.SameTime w₁) (h' : w₁.SameTime w') : w.SameTime w' :=
  ⟨h'.clock.trans h.clock, h'.cancelled.trans h.cancelled, h'.agenda.trans h.agenda⟩

theorem record (e : Event) (w : World) : w.SameTime (w.record e) := ⟨rfl, rfl, rfl⟩

theorem takePlace (w : World) : w.SameTime w.takePlace := ⟨rfl, rfl, rfl⟩

theorem ticks (h : w.SameTime w') : w'.ticks = w.ticks := congrArg Clock.ticks h.clock

theorem onTick (h : w.SameTime w') (hw : w.OnTick) : w'.OnTick := by
  rw [World.OnTick, h.clock]
  exact hw

end World.SameTime

/-- Waiting goes from tick to tick. -/
theorem World.onTick_settle {g : Guard} {w w' : World} (hw : w.OnTick) (h : w.settle g = some w') :
    w'.OnTick := by
  unfold World.settle at h
  generalize w.agenda = agenda at h
  induction agenda generalizing w with
  | nil =>
    simp only [World.settleWith] at h
    split at h
    next =>
      cases h
      exact hw
    next =>
      split at h <;> cases h
      exact hw.onTick_tickTo _
  | cons e rest ih =>
    obtain ⟨due, token⟩ := e
    simp only [World.settleWith] at h
    split at h
    next =>
      cases h
      exact hw
    next =>
      split at h
      next =>
        split at h
        next =>
          cases h
          exact hw.onTick_tickTo _
        next => exact ih (hw.onTick_tickTo due) h
      next => exact ih (hw.onTick_tickTo due) h

/-- A guard that waits for a tick and for nothing else. -/
structure Guard.IsTimer (g : Guard) (t : Tick) : Prop where
  holds : ∀ w, g.holds w = decide (t ≤ w.ticks)
  earliest : g.earliest? = some t

namespace Guard.IsTimer

variable {g g' : Guard} {s t : Tick} {w w₁ : World}

theorem reached (t : Instant) : IsTimer (.reached t) t.tick := ⟨fun _ => rfl, rfl⟩

theorem since (h : g.IsTimer t) (place : Nat) : IsTimer (.since place g) t :=
  ⟨h.holds, h.earliest⟩

/-- What waits from a tick for a length of time waits for the ticks of it. -/
theorem after (hw : w.OnTick) (place : Nat) (d : Duration) :
    IsTimer (.since place (.reached (w.now + d.nanos))) (w.ticks + d.ticks) := by
  rw [← Clock.tick_now_add hw]
  exact (reached _).since place

theorem either (h : g.IsTimer s) (h' : g'.IsTimer t) : IsTimer (.either g g') (min s t) where
  holds w := by
    rw [Guard.holds, h.holds, h'.holds, ← Bool.decide_or]
    exact decide_eq_decide.mpr (by unfold Tick at *; omega)
  earliest := by
    simp only [Guard.earliest?, h.earliest, h'.earliest]

/-- A tick to come is not there. -/
theorem waits (h : g.IsTimer t) (ht : w.ticks < t) : g.holds w = false := by
  rw [h.holds]
  exact decide_eq_false (Nat.not_le_of_lt ht)

/-- Two guards that wait for the same tick hold at the same moment. -/
theorem settle_eq (h : g.IsTimer t) (h' : g'.IsTimer t) (w : World) : w.settle g = w.settle g' := by
  unfold World.settle
  generalize w.agenda = agenda
  induction agenda generalizing w with
  | nil => simp only [World.settleWith, h.holds, h'.holds, h.earliest, h'.earliest]
  | cons e rest ih =>
    obtain ⟨due, token⟩ := e
    simp only [World.settleWith, h.holds, h'.holds, h.earliest, h'.earliest, ih]

/-- A tick to come is reached, and the clock stands there. -/
theorem settle (h : g.IsTimer t) (hw : w.OnTick) (ht : w.ticks ≤ t) :
    ∃ w₁, w.settle g = some w₁ ∧ w₁.ticks = t := by
  unfold World.settle
  generalize w.agenda = agenda
  induction agenda generalizing w with
  | nil =>
    simp only [World.settleWith, h.holds, h.earliest, hw.tickTo]
    split
    next hnow => exact ⟨_, rfl, Nat.le_antisymm ht (of_decide_eq_true hnow)⟩
    next => exact ⟨_, rfl, Nat.max_eq_right ht⟩
  | cons e rest ih =>
    obtain ⟨due, token⟩ := e
    simp only [World.settleWith, h.holds, h.earliest, hw.tickTo]
    split
    next hnow => exact ⟨_, rfl, Nat.le_antisymm ht (of_decide_eq_true hnow)⟩
    next =>
      split
      next => exact ⟨_, rfl, Nat.max_eq_right ht⟩
      next hdue => exact ih rfl (Nat.max_le.mpr ⟨ht, Nat.le_of_not_le hdue⟩)

end Guard.IsTimer

/-- Whoever waits for what is there goes on at once. -/
theorem World.settle_of_holds {g : Guard} {w : World} (h : g.holds w = true) :
    w.settle g = some w := by
  unfold World.settle
  cases hagenda : w.agenda with
  | nil =>
    have hw : { w with agenda := [] } = w := by rw [← hagenda]
    rw [World.settleWith, hw, if_pos h]
  | cons e rest =>
    have hw : { w with agenda := e :: rest } = w := by rw [← hagenda]
    rw [World.settleWith, hw, if_pos h]

namespace Work

variable {α β : Type}

/-- The work takes no time where it acts, waits for nothing but what is there and at ticks for times to
come, and comes to the value in the second world. -/
inductive Timely : Work α → World → α → World → Prop where
  | done (a : α) (w : World) : Timely (.done a) w a w
  | act {f : World → World} {next : World → Work α} {w w' : World} {a : α} :
      w.SameTime (f w) → Timely (next w) (f w) a w' → Timely (.act f next) w a w'
  | there {g : Guard} {d : World → World} {next : Work α} {w w' : World} {a : α} :
      g.holds w = true → Timely next w a w' → Timely (.wait g d next) w a w'
  | timer {g : Guard} {d : World → World} {next : Work α} {w w₁ w' : World} {a : α} {t : Tick} :
      w.OnTick → g.IsTimer t → w.ticks < t → (∀ v : World, v.SameTime (d v)) → w.settle g = some w₁ →
      Timely next w₁ a w' → Timely (.wait g d next) w a w'

namespace Timely

variable {p : Work α} {w w₁ w' : World} {a : α}

theorem run (h : p.Timely w a w') : p.run w = some (a, w') := by
  induction h with
  | done a w => rfl
  | act _ _ ih => exact ih
  | there hg _ ih =>
    rw [Work.run, World.settle_of_holds hg]
    exact ih
  | timer _ _ _ _ hs _ ih =>
    rw [Work.run, hs]
    exact ih

theorem ends (h : p.Timely w a w') : Ends alone p w a w' := run_eq_some_iff.mp h.run

/-- A timer that is waited for leaves the clock at its tick. -/
theorem clock_of_settle {g : Guard} {t : Tick} (hw : w.OnTick) (hg : g.IsTimer t) (ht : w.ticks < t)
    (hs : w.settle g = some w₁) : w₁.ticks = t ∧ w₁.OnTick := by
  obtain ⟨v, hv, hticks⟩ := hg.settle hw (Nat.le_of_lt ht)
  obtain rfl : v = w₁ := Option.some.inj (hv.symm.trans hs)
  exact ⟨hticks, World.onTick_settle hw hs⟩

/-- The clock goes to the tick of a timer, or stands there already. -/
theorem await {g : Guard} {d : World → World} {next : Work α} {t : Tick} (hw : w.OnTick)
    (hg : g.IsTimer t) (ht : w.ticks ≤ t) (hd : ∀ v : World, v.SameTime (d v))
    (hs : w.settle g = some w₁) (h : Timely next w₁ a w') : Timely (.wait g d next) w a w' := by
  rcases Nat.lt_or_eq_of_le ht with hlt | rfl
  · exact .timer hw hg hlt hd hs h
  · have hthere : g.holds w = true := by
      rw [hg.holds]
      exact decide_eq_true (Nat.le_refl _)
    obtain rfl : w = w₁ := Option.some.inj ((World.settle_of_holds hthere).symm.trans hs)
    exact .there hthere h

/-- The clock does not go back. -/
theorem ticks_le (h : p.Timely w a w') : w.ticks ≤ w'.ticks := by
  induction h with
  | done a w => exact Nat.le_refl _
  | act hsame _ ih => exact hsame.ticks ▸ ih
  | there _ _ ih => exact ih
  | timer hw hg ht _ hs _ ih =>
    obtain ⟨hticks, -⟩ := clock_of_settle hw hg ht hs
    exact Nat.le_trans (Nat.le_of_lt ht) (hticks ▸ ih)

/-- From tick to tick. -/
theorem onTick (h : p.Timely w a w') (hw : w.OnTick) : w'.OnTick := by
  induction h with
  | done a w => exact hw
  | act hsame _ ih => exact ih (hsame.onTick hw)
  | there _ _ ih => exact ih hw
  | timer hw hg ht _ hs _ ih => exact ih (clock_of_settle hw hg ht hs).2

theorem bind {k : α → Work β} {b : β} (h : p.Timely w a w₁) (hk : (k a).Timely w₁ b w') :
    (p.bind k).Timely w b w' := by
  induction h with
  | done a w => exact hk
  | act hsame _ ih => exact .act hsame (ih hk)
  | there hg _ ih => exact .there hg (ih hk)
  | timer hw hg ht hd hs _ ih => exact .timer hw hg ht hd hs (ih hk)

theorem guarded (release : World → World) (hrelease : ∀ v : World, v.SameTime (release v))
    (h : p.Timely w a w') : (p.guarded release).Timely w a (release w') := by
  induction h with
  | done a w => exact .act (hrelease w) (.done a _)
  | act hsame _ ih => exact .act hsame ih
  | there hg _ ih => exact .there hg ih
  | timer hw hg ht hd hs _ ih =>
    exact .timer hw hg ht (fun v => (hd v).trans (hrelease _)) hs ih

/-- Work that comes to its end by a limit is not cut short. -/
theorem limitedTo {limit : Guard} {l : Tick} (h : p.Timely w a w') (hlimit : limit.IsTimer l)
    (hl : w'.ticks ≤ l) : (p.limitedTo limit).Timely w (some a) w' := by
  induction h with
  | done a w => exact .done (some a) w
  | act hsame _ ih => exact .act hsame (ih hl)
  | there hg _ ih =>
    refine .act (.refl _) ?_
    rw [if_pos hg]
    exact ih hl
  | @timer g d next w w₁ w' a t hw hg ht hd hs h ih =>
    obtain ⟨hticks, -⟩ := clock_of_settle hw hg ht hs
    -- The clock does not go back, so each wait on the way is over by the limit.
    have htl : t ≤ l := Nat.le_trans (hticks ▸ h.ticks_le) hl
    have heither : (Guard.either limit g).IsTimer t := by
      have := hlimit.either hg
      rwa [Nat.min_eq_right htl] at this
    refine .act (.refl _) ?_
    rw [if_neg (by rw [hg.holds]; simpa using ht)]
    refine .timer hw heither ht hd ((heither.settle_eq hg w).trans hs) (.act (.refl _) ?_)
    rw [if_pos (by rw [hg.holds, hticks]; simp)]
    exact ih hl

/-- Work that would end after a limit is given up at the limit. -/
theorem limitedTo_none {limit : Guard} {l : Tick} (h : p.Timely w a w') (hlimit : limit.IsTimer l)
    (hw : w.ticks ≤ l) (hl : l < w'.ticks) :
    ∃ w₁, (p.limitedTo limit).Timely w none w₁ ∧ w₁.ticks = l := by
  induction h with
  | done a w => exact absurd hw (Nat.not_le_of_lt hl)
  | act hsame _ ih =>
    obtain ⟨w₁, h, hticks⟩ := ih (hsame.ticks ▸ hw) hl
    exact ⟨w₁, .act hsame h, hticks⟩
  | there hg _ ih =>
    obtain ⟨w₁, h, hticks⟩ := ih hw hl
    refine ⟨w₁, .act (.refl _) ?_, hticks⟩
    rw [if_pos hg]
    exact h
  | @timer g d next w w₁ w' a t hon hg ht hd hs _ ih =>
    have hnot : ¬ g.holds w = true := by
      rw [hg.holds]
      simpa using ht
    by_cases htl : t ≤ l
    · -- The work goes on before the limit.
      obtain ⟨hticks, -⟩ := clock_of_settle hon hg ht hs
      have heither : (Guard.either limit g).IsTimer t := by
        have := hlimit.either hg
        rwa [Nat.min_eq_right htl] at this
      obtain ⟨w₂, h, hticks₂⟩ := ih (hticks ▸ htl) hl
      refine ⟨w₂, .act (.refl _) ?_, hticks₂⟩
      rw [if_neg hnot]
      refine .timer hon heither ht hd ((heither.settle_eq hg w).trans hs) (.act (.refl _) ?_)
      rw [if_pos (by rw [hg.holds, hticks]; simp)]
      exact h
    · -- The limit is there first, perhaps at once.
      have hlt : l < t := Nat.lt_of_not_le htl
      have heither : (Guard.either limit g).IsTimer l := by
        have := hlimit.either hg
        rwa [Nat.min_eq_left (Nat.le_of_lt hlt)] at this
      obtain ⟨v, hv, hticks⟩ := heither.settle hon hw
      -- The limit is asked before the work, and the work still waits.
      have hcut : (Work.act id fun w₂ => if g.holds w₂ then next.limitedTo limit
          else .act d fun _ => .done none : Work (Option α)).Timely v none (d v) := by
        refine .act (.refl _) ?_
        rw [if_neg (by rw [hg.holds, hticks]; simpa using hlt)]
        exact .act (hd v) (.done none _)
      refine ⟨d v, .act (.refl _) ?_, (hd v).ticks.trans hticks⟩
      rw [if_neg hnot]
      exact .await hon heither hw hd hv hcut

end Timely

/-- Sleeping takes as long as it says, rounded up to ticks. -/
theorem timely_sleep (d : Duration) {w : World} (hw : w.OnTick) :
    ∃ w', (sleep d).Timely w () w' ∧ w'.ticks = w.ticks + d.ticks := by
  have htimer := Guard.IsTimer.after hw w.nextPlace d
  obtain ⟨v, hv, hticks⟩ := htimer.settle (w := w.takePlace) hw (Nat.le_add_right _ _)
  exact ⟨v, .act (.takePlace w)
    (.await hw htimer (Nat.le_add_right _ _) (fun _ => .refl _) hv (.done () v)), hticks⟩

end Work

namespace Attempt

variable {α : Type} {t : Attempt α} {w w' : World} {r : Except Panic α}

theorem timely_within_none (h : t.run.Timely w r w') :
    (within none t).run.Timely w (r.map some) w' := by
  refine Work.Timely.bind h ?_
  cases r <;> exact .done _ w'

/-- Work that ends by its limit keeps its outcome. -/
theorem timely_within {l : Duration} (hw : w.OnTick) (h : t.run.Timely w.takePlace r w')
    (hl : w'.ticks ≤ w.ticks + l.ticks) : (within (some l) t).run.Timely w (r.map some) w' := by
  have hlimited : (Work.within l t.run).Timely w (some r) w' :=
    .act (.takePlace w) (h.limitedTo (.after hw w.nextPlace l) hl)
  refine Work.Timely.bind hlimited ?_
  cases r <;> exact .done _ w'

/-- Work that would end after its limit is given up at the limit. -/
theorem timely_within_late {l : Duration} (hw : w.OnTick) (h : t.run.Timely w.takePlace r w')
    (hl : w.ticks + l.ticks < w'.ticks) :
    ∃ w₁, (within (some l) t).run.Timely w (.ok none) w₁ ∧ w₁.ticks = w.ticks + l.ticks := by
  obtain ⟨w₁, hlimited, hticks⟩ :=
    h.limitedTo_none (.after hw w.nextPlace l) (Nat.le_add_right w.ticks l.ticks) hl
  have hwithin : (Work.within l t.run).Timely w none w₁ := .act (.takePlace w) hlimited
  exact ⟨w₁, Work.Timely.bind hwithin (.done _ w₁), hticks⟩

/-- How many ticks work of the given length takes within a limit. -/
def limited (limit : Option Duration) (n : Nat) : Nat :=
  match limit with
  | some l => Nat.min n l.ticks
  | none => n

theorem limited_of_long {limit : Option Duration} {n : Nat}
    (h : ∀ l, limit = some l → n ≤ l.ticks) : limited limit n = n := by
  cases limit with
  | none => rfl
  | some l => exact Nat.min_eq_left (h l rfl)

theorem limited_of_short {l : Duration} {n : Nat} (h : l.ticks < n) :
    limited (some l) n = l.ticks :=
  Nat.min_eq_right (Nat.le_of_lt h)

/-- From any tick, the work takes the given number of ticks and comes to an outcome of a kind. -/
def Takes (t : Attempt α) (n : Nat) (P : Except Panic α → Prop) : Prop :=
  ∀ w, w.OnTick → ∃ r w', t.run.Timely w r w' ∧ w'.ticks = w.ticks + n ∧ P r

namespace Takes

variable {n : Nat} {P : Except Panic α → Prop}

theorem pure {a : α} (h : P (.ok a)) : (Pure.pure a : Attempt α).Takes 0 P :=
  fun w _ => ⟨_, w, .done _ w, rfl, h⟩

/-- Work that cannot panic adds its time. -/
theorem lift_bind {β : Type} {p : Work β} {k : β → Attempt α} {m : Nat}
    (hp : ∀ w, w.OnTick → ∃ b w', p.Timely w b w' ∧ w'.ticks = w.ticks + m)
    (hk : ∀ b, (k b).Takes n P) :
    Attempt.Takes ((p : Attempt β) >>= k) (m + n) P := by
  intro w hw
  obtain ⟨b, w₁, hb, hticks⟩ := hp w hw
  obtain ⟨r, w', hr, hticks', hP⟩ := hk b w₁ (hb.onTick hw)
  have htree : ((p : Attempt β) >>= k).run = p.bind fun b => (k b).run := by
    show (p.bind _).bind _ = _
    rw [Work.bind_bind]
    rfl
  refine ⟨r, w', ?_, ?_, hP⟩
  · rw [htree]
    exact hb.bind hr
  · rw [hticks', hticks, Nat.add_assoc]

/-- A limit that is long enough changes neither the time nor the outcome. -/
theorem within {limit : Option Duration} (h : t.Takes n P)
    (hn : ∀ l, limit = some l → n ≤ l.ticks) :
    (Attempt.within limit t).Takes n fun r => ∃ x, P x ∧ r = x.map some := by
  intro w hw
  cases limit with
  | none =>
    obtain ⟨r, w', hr, hticks, hP⟩ := h w hw
    exact ⟨_, w', timely_within_none hr, hticks, r, hP, rfl⟩
  | some l =>
    obtain ⟨r, w', hr, hticks, hP⟩ := h w.takePlace hw
    have hl : w'.ticks ≤ w.ticks + l.ticks := hticks ▸ Nat.add_le_add_left (hn l rfl) w.ticks
    exact ⟨_, w', timely_within hw hr hl, hticks, r, hP, rfl⟩

/-- A limit that is too short is the time the work takes. -/
theorem within_late {l : Duration} (h : t.Takes n P) (hl : l.ticks < n) :
    (Attempt.within (some l) t).Takes l.ticks fun r => r = .ok none := by
  intro w hw
  obtain ⟨r, w', hr, hticks, -⟩ := h w.takePlace hw
  have hlate : w.ticks + l.ticks < w'.ticks := hticks ▸ Nat.add_lt_add_left hl w.ticks
  obtain ⟨w₁, hwithin, hticks₁⟩ := timely_within_late hw hr hlate
  exact ⟨_, w₁, hwithin, hticks₁, rfl⟩

/-- A limit leaves the work as it is or cuts it off. -/
theorem limited (h : t.Takes n P) (limit : Option Duration) :
    (Attempt.within limit t).Takes (Attempt.limited limit n) fun r =>
      ((∀ l, limit = some l → n ≤ l.ticks) ∧ ∃ x, P x ∧ r = x.map some) ∨
        ∃ l, limit = some l ∧ l.ticks < n ∧ r = .ok none := by
  by_cases hn : ∀ l, limit = some l → n ≤ l.ticks
  · rw [limited_of_long hn]
    intro w hw
    obtain ⟨r, w', hr, hticks, hx⟩ := h.within hn w hw
    exact ⟨r, w', hr, hticks, .inl ⟨hn, hx⟩⟩
  · simp only [Classical.not_forall, Nat.not_le] at hn
    obtain ⟨l, rfl, hl⟩ := hn
    rw [limited_of_short hl]
    intro w hw
    obtain ⟨r, w', hr, hticks, rfl⟩ := h.within_late hl w hw
    exact ⟨_, w', hr, hticks, .inr ⟨l, rfl, hl, rfl⟩⟩

end Takes

end Attempt

/-- A lock that nobody holds and nobody waits for. -/
structure Lock.Idle (l : Lock) : Prop where
  readers : l.readers = []
  writer : l.writer = none
  queue : l.queue = []

namespace Lock.Idle

variable {l : Lock}

/-- Whoever asks for an idle lock has it. -/
theorem isGranted (h : l.Idle) (writing : Bool) :
    (l.request writing).isGranted l.nextTicket = true := by
  obtain ⟨readers, writer, queue, next⟩ := l
  obtain ⟨rfl, rfl, rfl⟩ := h
  cases writing <;> simp [request, settle, serve, Lock.isGranted]

theorem giveBack (h : l.Idle) (writing : Bool) :
    ((l.request writing).giveBack l.nextTicket).Idle := by
  obtain ⟨readers, writer, queue, next⟩ := l
  obtain ⟨rfl, rfl, rfl⟩ := h
  cases writing <;> constructor <;> simp [request, Lock.giveBack, settle, serve]

end Lock.Idle

/-- Work under an idle lock begins at once. -/
theorem Work.Timely.holding {α : Type} {p : Work α} {w w' : World} {a : α} {writing : Bool}
    (hidle : w.lock.Idle)
    (h : p.Timely { w with lock := w.lock.request writing } a w') :
    (Work.holding writing p).Timely w a { w' with lock := w'.lock.giveBack w.lock.nextTicket } := by
  refine .act ⟨rfl, rfl, rfl⟩ (.there (hidle.isGranted writing) ?_)
  exact h.guarded (fun w' => { w' with lock := w'.lock.giveBack w.lock.nextTicket })
    fun v => ⟨rfl, rfl, rfl⟩

end CallChain
