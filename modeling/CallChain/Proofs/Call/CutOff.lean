import CallChain.Proofs.Call.Stop

/-!
# When limits cut off a call

Work that begins now is cut off at its limit if it would take longer, and at the deadline of its context
if it is not over before.  The limit it is given is capped by the time left, and the deadline goes
before a limit that ends with it, so the cap never shows: the two cut off the work as they would by
themselves, whichever comes first (`CallContext.cutOff?`).
-/

set_option autoImplicit false

namespace CallChain

/-- How work of a known length ends: at its cut-off if there is one, otherwise in its own time.  The
clock is the one at the end. -/
inductive EndsBy {α : Type} (cutOff? : Option Tick) (own : Tick) (cut completed : α → Prop) :
    Clock → α → Prop where
  | cut {t : Tick} {a : α} : cutOff? = some t → cut a → EndsBy cutOff? own cut completed (.atTick t) a
  | completed {a : α} :
      cutOff? = none → completed a → EndsBy cutOff? own cut completed (.atTick own) a

theorem EndsBy.imp {α β : Type} {cutOff? : Option Tick} {own : Tick} {k : Clock}
    {cut completed : α → Prop} {cut' completed' : β → Prop} {a : α} {b : β}
    (h : EndsBy cutOff? own cut completed k a) (hcut : cut a → cut' b)
    (hcompleted : completed a → completed' b) : EndsBy cutOff? own cut' completed' k b := by
  cases h with
  | cut ht ha => exact .cut ht (hcut ha)
  | completed ht ha => exact .completed ht (hcompleted ha)

theorem EndsBy.eq_of_some {α : Type} {s own : Tick} {k : Clock} {cut completed : α → Prop}
    {a : α} (h : EndsBy (some s) own cut completed k a) : k = .atTick s ∧ cut a := by
  cases h with
  | cut ht ha =>
    cases ht
    exact ⟨rfl, ha⟩
  | completed ht => cases ht

theorem EndsBy.eq_of_none {α : Type} {own : Tick} {k : Clock} {cut completed : α → Prop} {a : α}
    (h : EndsBy none own cut completed k a) : k = .atTick own ∧ completed a := by
  cases h with
  | cut ht => cases ht
  | completed _ ha => exact ⟨rfl, ha⟩

open Attempt (limited)

theorem Attempt.limited_le (limit : Option Duration) (n : Nat) : limited limit n ≤ n := by
  cases limit with
  | none => exact Nat.le_refl n
  | some l => exact Nat.min_le_left n l.ticks

theorem Attempt.limited_le_limit (l : Duration) (n : Nat) : limited (some l) n ≤ l.ticks :=
  Nat.min_le_right n l.ticks

/-- When work of the given length runs into its limit, if it does. -/
def World.limitEnd? (w : World) (limit : Option Duration) (n : Nat) : Option Tick :=
  (limit.filter fun l => decide (l.ticks < n)).map fun l => w.ticks + l.ticks

theorem World.limitEnd?_eq_some_iff {w : World} {limit : Option Duration} {n : Nat} {t : Tick} :
    w.limitEnd? limit n = some t ↔ ∃ l, limit = some l ∧ l.ticks < n ∧ w.ticks + l.ticks = t := by
  simp [World.limitEnd?, and_assoc]

namespace CallContext

/-- When work of the given length runs into the deadline, if it does. -/
def deadlineEnd? (ctx : CallContext) (w : World) (n : Nat) : Option Tick :=
  (ctx.deadlineTick?.filter fun d => decide (d ≤ w.ticks + n)).map fun d => max w.ticks d

/-- When work of the given length is cut off that begins now, if it is. -/
def cutOff? (ctx : CallContext) (w : World) (limit : Option Duration) (n : Nat) : Option Tick :=
  Option.merge min (w.limitEnd? limit n) (ctx.deadlineEnd? w n)

/-- A limit capped by the time left before the deadline. -/
def capped (ctx : CallContext) (w : World) (limit : Option Duration) : Option Duration :=
  match limit, ctx.remaining w with
  | some t, some r => some (t.min r)
  | some t, none => some t
  | none, r => r

variable {ctx : CallContext} {w : World} {limit : Option Duration} {n : Nat} {s t : Tick}
  {l : Duration}

theorem deadlineEnd?_eq_some_iff :
    ctx.deadlineEnd? w n = some t ↔
      ∃ d, ctx.deadlineTick? = some d ∧ d ≤ w.ticks + n ∧ max w.ticks d = t := by
  simp [deadlineEnd?, and_assoc]

theorem cutOff?_eq_limitEnd (h : w.limitEnd? limit n = some t)
    (hle : ∀ s, ctx.deadlineEnd? w n = some s → t ≤ s) : ctx.cutOff? w limit n = some t := by
  unfold cutOff?
  rw [h]
  cases hs : ctx.deadlineEnd? w n with
  | none => rfl
  | some s => exact congrArg some (Nat.min_eq_left (hle s hs))

theorem cutOff?_eq_deadlineEnd (h : ctx.deadlineEnd? w n = some t)
    (hle : ∀ s, w.limitEnd? limit n = some s → t ≤ s) : ctx.cutOff? w limit n = some t := by
  unfold cutOff?
  rw [h]
  cases hs : w.limitEnd? limit n with
  | none => rfl
  | some s => exact congrArg some (Nat.min_eq_right (hle s hs))

/-- The cap never lengthens a limit. -/
theorem exists_capped (ctx : CallContext) (w : World) (l : Duration) :
    ∃ l', ctx.capped w (some l) = some l' ∧ l'.ticks ≤ l.ticks := by
  unfold capped
  cases ctx.remaining w with
  | none => exact ⟨l, rfl, Nat.le_refl _⟩
  | some r =>
    refine ⟨_, rfl, ?_⟩
    unfold Duration.min
    split
    · exact Nat.le_refl _
    next hle => exact Instant.tick_mono (Nat.le_of_not_le hle)

/-- The time left before the deadline lasts to its tick. -/
theorem tick_le_of_remaining (hw : w.OnTick) (d : Instant) :
    d.tick ≤ w.ticks + Duration.ticks ⟨d - w.now⟩ := by
  rw [← Clock.tick_now_add hw]
  refine Instant.tick_mono ?_
  show d ≤ w.now + (d - w.now)
  unfold Instant at *
  omega

/-- A capped limit that ends before the deadline is not the cap. -/
theorem eq_of_capped (hw : w.OnTick) (h : ctx.capped w limit = some l)
    (hin : ∀ d, ctx.deadlineTick? = some d → w.ticks + l.ticks < d) : limit = some l := by
  unfold capped remaining at h
  cases hd : ctx.deadline with
  | none =>
    rw [hd] at h
    cases limit with
    | none => cases h
    | some t => exact h
  | some d =>
    have hlt := hin d.tick (by rw [deadlineTick?, hd]; rfl)
    -- The cap itself would end with the deadline.
    have hcap : l ≠ ⟨d - w.now⟩ := by
      rintro rfl
      exact absurd (tick_le_of_remaining hw d) (Nat.not_le_of_lt hlt)
    rw [hd] at h
    cases limit with
    | none =>
      cases h
      exact absurd rfl hcap
    | some t =>
      obtain rfl : t.min ⟨d - w.now⟩ = l := Option.some.inj h
      unfold Duration.min at hcap ⊢
      split at hcap
      next hle => rw [if_pos hle]
      next => exact absurd rfl hcap

/-- A deadline that is there before the work and the capped limit end cuts off the work. -/
theorem cutOff?_of_deadline {d : Tick} (hd : ctx.deadlineTick? = some d)
    (h : d ≤ w.ticks + limited (ctx.capped w limit) n) :
    ctx.cutOff? w limit n = some (max w.ticks d) := by
  have hn : d ≤ w.ticks + n := Nat.le_trans h (Nat.add_le_add_left (Attempt.limited_le _ n) w.ticks)
  -- A limit of its own ends no earlier than when it is capped, and so not before the deadline.
  refine cutOff?_eq_deadlineEnd (deadlineEnd?_eq_some_iff.mpr ⟨d, hd, hn, rfl⟩) fun s hs => ?_
  obtain ⟨l, rfl, -, rfl⟩ := World.limitEnd?_eq_some_iff.mp hs
  obtain ⟨l', hl', hle⟩ := exists_capped ctx w l
  rw [hl'] at h
  have hcap := Nat.le_trans (Attempt.limited_le_limit l' n) hle
  exact Nat.max_le.mpr ⟨Nat.le_add_right _ _, Nat.le_trans h (Nat.add_le_add_left hcap w.ticks)⟩

/-- What stops a call before the work and its capped limit end is the deadline, unless a cancellation
comes first. -/
theorem cutOff?_of_stop? {w₁ : World} (hgoing : ctx.isCancelled w₁ = false)
    (hlater : ∀ c, w₁.due? ctx.token = some c → w.ticks + n < c) (ht : ctx.stop? w₁ = some t)
    (hle : t ≤ w.ticks + limited (ctx.capped w limit) n) :
    ctx.cutOff? w limit n = some (max w.ticks t) ∧ ctx.stopReason w₁ = expiredText := by
  have hn : t ≤ w.ticks + n := Nat.le_trans hle (Nat.add_le_add_left (Attempt.limited_le _ n) w.ticks)
  exact ⟨cutOff?_of_deadline (deadline_of_stop? hgoing hlater ht hn) hle,
    stopReason_of_stop? hgoing hlater ht hn⟩

/-- A capped limit that ends before the work and the deadline cuts off the work. -/
theorem cutOff?_of_limit (hw : w.OnTick) (hl : ctx.capped w limit = some l) (hlt : l.ticks < n)
    (hin : ∀ d, ctx.deadlineTick? = some d → w.ticks + l.ticks < d) :
    ctx.cutOff? w limit n = some (w.ticks + l.ticks) := by
  have hlimit := eq_of_capped hw hl hin
  refine cutOff?_eq_limitEnd (World.limitEnd?_eq_some_iff.mpr ⟨l, hlimit, hlt, rfl⟩) fun s hs => ?_
  obtain ⟨d, hd, -, rfl⟩ := deadlineEnd?_eq_some_iff.mp hs
  exact Nat.le_trans (Nat.le_of_lt (hin d hd)) (Nat.le_max_right _ _)

/-- Work that ends by its capped limit and before the deadline is not cut off. -/
theorem cutOff?_of_none (hl : ∀ l, ctx.capped w limit = some l → n ≤ l.ticks)
    (hin : ∀ d, ctx.deadlineTick? = some d → w.ticks + n < d) : ctx.cutOff? w limit n = none := by
  have hlimit : w.limitEnd? limit n = none := by
    refine Option.eq_none_iff_forall_ne_some.mpr fun s hs => ?_
    obtain ⟨l, rfl, hlt, -⟩ := World.limitEnd?_eq_some_iff.mp hs
    obtain ⟨l', hl', hle⟩ := exists_capped ctx w l
    exact absurd (Nat.le_trans (hl l' hl') hle) (Nat.not_le_of_lt hlt)
  have hdeadline : ctx.deadlineEnd? w n = none := by
    refine Option.eq_none_iff_forall_ne_some.mpr fun s hs => ?_
    obtain ⟨d, hd, hle, -⟩ := deadlineEnd?_eq_some_iff.mp hs
    exact absurd hle (Nat.not_le_of_lt (hin d hd))
  unfold cutOff?
  rw [hlimit, hdeadline]
  rfl

theorem cutOff?_none (ctx : CallContext) (w : World) (n : Nat) :
    ctx.cutOff? w none n = ctx.deadlineEnd? w n :=
  Option.merge_none_left

/-- A limit of zero cuts off at once whatever takes time. -/
theorem cutOff?_zero (ctx : CallContext) (w : World) (hn : 0 < n) :
    ctx.cutOff? w (some .zero) n = some w.ticks := by
  refine cutOff?_eq_limitEnd (World.limitEnd?_eq_some_iff.mpr ⟨.zero, rfl, hn, rfl⟩) fun s hs => ?_
  obtain ⟨d, -, -, rfl⟩ := deadlineEnd?_eq_some_iff.mp hs
  exact Nat.le_max_left _ _

theorem cutOff?_congr {ctx' : CallContext} {w' : World} (hdeadline : ctx'.deadline = ctx.deadline)
    (hclock : w'.clock = w.clock) (limit : Option Duration) (n : Nat) :
    ctx'.cutOff? w' limit n = ctx.cutOff? w limit n ∧ ctx'.capped w' limit = ctx.capped w limit := by
  unfold cutOff? World.limitEnd? deadlineEnd? deadlineTick? capped remaining World.ticks World.now
  rw [hdeadline, hclock]
  exact ⟨rfl, rfl⟩

/-- At a tick, a deadline is still to come exactly if its tick is. -/
theorem lt_deadlineTick_iff (hw : w.OnTick) :
    (∀ d, ctx.deadlineTick? = some d → w.ticks < d) ↔ ∀ d, ctx.deadline = some d → w.now < d := by
  unfold deadlineTick?
  rw [World.now, Clock.now_of_onTick hw]
  cases ctx.deadline with
  | none => simp
  | some d => simp [Instant.lt_tick_iff]

/-- Leaving out a limit of zero changes the cut-off exactly of work that takes time and whose deadline
is still to come. -/
theorem cutOff?_eq_cutOff?_filter_iff (ctx : CallContext) (hw : w.OnTick) (limit : Option Duration)
    (n : Nat) :
    ctx.cutOff? w limit n = ctx.cutOff? w (limit.filter fun l => !l.isZero) n ↔
      ¬ (limit = some .zero ∧ 0 < n ∧ ∀ d, ctx.deadline = some d → w.now < d) := by
  rw [← lt_deadlineTick_iff hw]
  by_cases hzero : limit = some .zero ∧ 0 < n
  · obtain ⟨rfl, hn⟩ := hzero
    have hnone : (some Duration.zero).filter (fun l => !l.isZero) = none := rfl
    -- Only a deadline that is past cuts off at once too.
    rw [hnone, cutOff?_zero ctx w hn, cutOff?_none, eq_comm, deadlineEnd?_eq_some_iff]
    constructor
    · rintro ⟨d, hd, -, hmax⟩ ⟨-, -, hlater⟩
      exact absurd (Nat.le_trans (Nat.le_max_right w.ticks d) (Nat.le_of_eq hmax))
        (Nat.not_le_of_lt (hlater d hd))
    · intro hnot
      simp only [true_and, hn, Classical.not_forall, Nat.not_lt] at hnot
      obtain ⟨d, hd, hle⟩ := hnot
      exact ⟨d, hd, Nat.le_trans hle (Nat.le_add_right _ _), Nat.max_eq_left hle⟩
  · -- Where the limit is not zero nothing is left out, and work that takes no time runs into none.
    have hend : w.limitEnd? limit n = w.limitEnd? (limit.filter fun l => !l.isZero) n := by
      unfold World.limitEnd?
      rcases limit with _ | ⟨_ | k⟩
      · rfl
      · obtain rfl : n = 0 := Nat.eq_zero_of_not_pos fun hn => hzero ⟨rfl, hn⟩
        rfl
      · rfl
    refine iff_of_true ?_ fun h => hzero ⟨h.1, h.2.1⟩
    unfold cutOff?
    rw [hend]

end CallContext

end CallChain
