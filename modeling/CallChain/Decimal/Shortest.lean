import CallChain.Decimal.Binary64

/-!
# The shortest decimal of a double

The reals that round to a double form an interval around it, ends included exactly when its
significand is even.  The shortest decimal is taken from the coarsest decimal grid that has a point
in that interval; only the double's two neighbours on the grid need a look, and the nearer one wins,
the even one on a tie.  All comparisons are between natural numbers.
-/

set_option autoImplicit false

namespace CallChain

/-- A positive decimal number `digits · 10 ^ exponent`. -/
structure Decimal where
  /-- The digits, read as one number. -/
  digits : Nat
  /-- The place of the last digit. -/
  exponent : Int
  deriving DecidableEq, Repr

namespace Decimal

/-- The same number without trailing zeros among at most `fuel` digits. -/
def trimZeros : Nat → Decimal → Decimal
  | 0, d => d
  | fuel + 1, d =>
    if d.digits % 10 = 0 ∧ d.digits ≠ 0 then trimZeros fuel ⟨d.digits / 10, d.exponent + 1⟩ else d

/-- An interval of reals, its ends and a middle given as multiples of `2 ^ (-1076)`. -/
structure Interval where
  low : Nat
  middle : Nat
  high : Nat
  closed : Bool

/-- The reals that round to a positive finite double. -/
def Interval.of (x : Binary64) : Interval :=
  let m := x.significand
  let unit := Nat.pow 2 x.shift
  { low := 4 * m * unit - (if m = Binary64.fractionLimit ∧ 0 < x.shift then unit else 2 * unit)
    middle := 4 * m * unit
    high := 4 * m * unit + 2 * unit
    closed := m % 2 = 0 }

/-- The factors that put a decimal grid `10 ^ e` and multiples of `2 ^ (-1076)` on one scale. -/
def scales (e : Int) : Nat × Nat :=
  if 0 ≤ e then (Nat.pow 10 e.toNat * Nat.pow 2 1076, 1) else (Nat.pow 2 1076, Nat.pow 10 (-e).toNat)

/-- The point of the grid `10 ^ e` in an interval that is nearest to its middle, if there is one. -/
def onGrid? (i : Interval) (e : Int) : Option Nat :=
  let (grid, unit) := scales e
  let below := i.middle * unit / grid
  let downward := i.middle * unit - below * grid
  let upward := (below + 1) * grid - i.middle * unit
  let lowIn := if i.closed then i.low * unit ≤ below * grid else i.low * unit < below * grid
  let highIn :=
    if i.closed then (below + 1) * grid ≤ i.high * unit else (below + 1) * grid < i.high * unit
  if lowIn ∧ highIn then
    if downward < upward then some below
    else if upward < downward then some (below + 1)
    else if below % 2 = 0 then some below else some (below + 1)
  else if lowIn then some below
  else if highIn then some (below + 1)
  else none

/-- The greatest `e` with `10 ^ e` at most the middle of an interval. -/
def leadingPlace (i : Interval) : Int :=
  let guess : Int := ((i.middle.log2 : Int) - 1076) * 30103 / 100000
  let reaches (e : Int) : Bool := (scales e).1 ≤ i.middle * (scales e).2
  if reaches (guess + 1) then guess + 1 else if reaches guess then guess else guess - 1

/-- The first hit on ever finer grids, `fuel` of them, starting at `10 ^ e`. -/
def firstHit (i : Interval) : Nat → Int → Decimal
  | 0, e => ⟨i.middle * (scales e).2 / (scales e).1, e⟩
  | fuel + 1, e =>
    match onGrid? i e with
    | some digits => ⟨digits, e⟩
    | none => firstHit i fuel (e - 1)

/-- The shortest decimal that rounds to a positive finite double. -/
def shortest (x : Binary64) : Decimal :=
  let i := Interval.of x
  trimZeros 400 (firstHit i 17 (leadingPlace i))

end Decimal

end CallChain
