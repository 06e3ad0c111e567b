import CallChain.Json.Value

/-!
# Durations and the clock

A duration is a whole number of nanoseconds.  Its text uses the largest of the units second,
millisecond, microsecond and nanosecond that does not exceed it, with exact decimals and no trailing
zeros.

The clock counts nanoseconds too, but timers go by ticks of a millisecond: a time is rounded up to a
tick, and is there once the timers have been looked at then or later.
-/

set_option autoImplicit false

namespace CallChain

/-- A length of time in nanoseconds. -/
structure Duration where
  nanos : Nat
  deriving DecidableEq, Repr

namespace Duration

def zero : Duration := ⟨0⟩

def ofMillis (n : Nat) : Duration := ⟨n * 1000000⟩

def millis (d : Duration) : Nat := d.nanos / 1000000

def isZero (d : Duration) : Bool := d.nanos == 0

def min (a b : Duration) : Duration := if a.nanos ≤ b.nanos then a else b

/-- The decimals of a fraction `n / 10 ^ places`, without trailing zeros. -/
def decimals : Nat → Nat → List Char
  | 0, _ => []
  | places + 1, n =>
    if n = 0 then []
    else Nat.digitChar (n / Nat.pow 10 places) :: decimals places (n % Nat.pow 10 places)

/-- A number of units of `10 ^ places` nanoseconds each, written with the unit's sign. -/
def inUnit (nanos places : Nat) (unit : String) : String :=
  let fraction := decimals places (nanos % Nat.pow 10 places)
  toString (nanos / Nat.pow 10 places) ++
    (if fraction.isEmpty then "" else "." ++ String.ofList fraction) ++ unit

/-- The text of a duration: `0ns`, `1.5µs`, `50ms`, `3600s`. -/
def text (d : Duration) : String :=
  if Nat.pow 10 9 ≤ d.nanos then inUnit d.nanos 9 "s"
  else if Nat.pow 10 6 ≤ d.nanos then inUnit d.nanos 6 "ms"
  else if Nat.pow 10 3 ≤ d.nanos then inUnit d.nanos 3 "µs"
  else inUnit d.nanos 0 "ns"

/-- A duration that may be missing, as data in whole milliseconds. -/
def millisOrNull (d : Option Duration) : Json := .orNull (fun x => .nat x.millis) d

end Duration

/-- A point on the clock, in nanoseconds since it started. -/
abbrev Instant := Nat

/-- A point on the clock as timers know it, in milliseconds. -/
abbrev Tick := Nat

namespace Instant

/-- The last point that the clock can name. -/
def last : Instant := Nat.pow 2 63 * 1000000000 - 1

/-- The first tick that is not before a time. -/
def tick (t : Instant) : Tick := if t % 1000000 = 0 then t / 1000000 else t / 1000000 + 1

theorem tick_le_iff {t : Instant} {k : Tick} : t.tick ≤ k ↔ t ≤ k * 1000000 := by
  unfold tick Instant Tick at *
  split <;> omega

theorem lt_tick_iff {k : Tick} {t : Instant} : k < t.tick ↔ k * 1000000 < t := by
  rw [← Nat.not_le, tick_le_iff, Nat.not_le]

/-- The time of a tick is not rounded. -/
theorem tick_mul (k : Tick) : tick (k * 1000000) = k :=
  Nat.le_antisymm (tick_le_iff.mpr (Nat.le_refl _))
    (Nat.le_of_mul_le_mul_right (tick_le_iff.mp (Nat.le_refl _)) (by decide))

theorem tick_mono {s t : Instant} (h : s ≤ t) : s.tick ≤ t.tick :=
  tick_le_iff.mpr (Nat.le_trans h (tick_le_iff.mp (Nat.le_refl t.tick)))

end Instant

/-- The length of time a timer takes for a duration, in ticks. -/
def Duration.ticks (d : Duration) : Nat := Instant.tick d.nanos

theorem Duration.ticks_ofMillis (n : Nat) : (Duration.ofMillis n).ticks = n := Instant.tick_mul n

/-- The clock with its timers.  These are looked at while everything waits, and not while work acts, so
the clock may be ahead of them. -/
structure Clock where
  /-- The last tick at which the timers were looked at. -/
  ticks : Tick
  /-- How far the clock is ahead of that tick, in nanoseconds. -/
  lag : Nat
  deriving DecidableEq, Repr

namespace Clock

/-- The time. -/
def now (c : Clock) : Instant := c.ticks * 1000000 + c.lag

theorem ticks_le_now (c : Clock) : c.ticks * 1000000 ≤ c.now := Nat.le_add_right _ _

/-- Whether the time is that of the last tick. -/
def OnTick (c : Clock) : Prop := c.lag = 0

/-- The clock at a tick. -/
def atTick (k : Tick) : Clock := ⟨k, 0⟩

theorem OnTick.eq_atTick {c : Clock} {k : Tick} (h : c.OnTick) (hk : c.ticks = k) : c = atTick k := by
  obtain ⟨ticks, lag⟩ := c
  obtain rfl : lag = 0 := h
  exact congrArg atTick hk

theorem now_of_onTick {c : Clock} (h : c.OnTick) : c.now = c.ticks * 1000000 := by
  rw [now, show c.lag = 0 from h, Nat.add_zero]

theorem onTick_atTick (k : Tick) : (atTick k).OnTick := rfl

/-- From a tick, a timer takes the ticks of its duration. -/
theorem tick_now_add {c : Clock} (h : c.OnTick) (d : Duration) :
    Instant.tick (c.now + d.nanos) = c.ticks + d.ticks := by
  rw [now_of_onTick h, Duration.ticks]
  generalize c.ticks = k
  unfold Instant.tick Instant Tick at *
  split <;> split <;> omega

/-- The clock moved on to a time, with the timers looked at. -/
def passTo (t : Instant) (c : Clock) : Clock := ⟨max c.now t / 1000000, max c.now t % 1000000⟩

theorem now_passTo (t : Instant) (c : Clock) : (c.passTo t).now = max c.now t :=
  Nat.div_add_mod' (max c.now t) 1000000

/-- The clock moved on by whole milliseconds until the timers are at a tick. -/
def tickTo (k : Tick) (c : Clock) : Clock := ⟨max (c.ticks + c.lag / 1000000) k, c.lag % 1000000⟩

theorem le_ticks_tickTo (k : Tick) (c : Clock) : k ≤ (c.tickTo k).ticks := Nat.le_max_right _ _

theorem OnTick.tickTo {c : Clock} (h : c.OnTick) (k : Tick) : c.tickTo k = ⟨max c.ticks k, 0⟩ := by
  rw [Clock.tickTo, show c.lag = 0 from h]
  rfl

theorem OnTick.ticks_tickTo {c : Clock} (h : c.OnTick) (k : Tick) :
    (c.tickTo k).ticks = max c.ticks k := by
  rw [h.tickTo]

theorem OnTick.ticks_tickTo_of_le {c : Clock} {k : Tick} (h : c.OnTick) (hk : c.ticks ≤ k) :
    (c.tickTo k).ticks = k := by
  rw [h.ticks_tickTo]
  exact Nat.max_eq_right hk

theorem OnTick.onTick_tickTo {c : Clock} (h : c.OnTick) (k : Tick) : (c.tickTo k).OnTick := by
  rw [h.tickTo]
  rfl

end Clock

end CallChain
