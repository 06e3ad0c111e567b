import CallChain.Json.Document
import CallChain.Json.Value

/-!
# The value of a JSON number

A numeral without point and exponent that fits 64 bits, signed or unsigned, is a whole number; all
others are doubles.  The significand is gathered in 64 unsigned bits.  Digits of the whole part that
no longer fit count as powers of ten, and digits of the fraction that no longer fit are dropped.  The
significand is then scaled by one rounded multiplication or division by a power of ten, so a numeral
of many digits need not give the double nearest to it.  A result beyond the greatest double is
refused.
-/

set_option autoImplicit false

namespace CallChain.Json.Numeral

def significandLimit : Nat := Nat.pow 2 64

/-- Gathers digits while the significand fits, and returns the digits left over. -/
def gather : Nat → List Nat → Nat × List Nat
  | acc, [] => (acc, [])
  | acc, d :: r => if acc * 10 + d < significandLimit then gather (acc * 10 + d) r else (acc, d :: r)

def digitsValue (digits : List Nat) : Nat := digits.foldl (fun acc d => acc * 10 + d) 0

/-- The greatest power of ten that one scaling step applies. -/
def greatestPower : Nat := 308

/-- A nonnegative double times `10 ^ e`, in steps of `greatestPower` at most when `e` is negative;
nothing when the result is infinite.  The first argument bounds the steps. -/
def scale : Nat → Binary64 → Int → Option Binary64
  | 0, x, _ => some x
  | fuel + 1, x, e =>
    if e.natAbs ≤ greatestPower then
      if 0 ≤ e then
        let y := x.mul (Binary64.ofNat (Nat.pow 10 e.toNat))
        if y.isInfinite then none else some y
      else some (x.div (Binary64.ofNat (Nat.pow 10 (-e).toNat)))
    else if x.isZero then some x
    else if 0 ≤ e then none
    else scale fuel (x.div (Binary64.ofNat (Nat.pow 10 greatestPower))) (e + greatestPower)

def signed (negative : Bool) (x : Binary64) : Json := .double (if negative then x.negate else x)

/-- The double of a significand scaled by a power of ten. -/
def scaled (negative : Bool) (significand : Nat) (e : Int) : Option Json :=
  (scale 8 (Binary64.ofNat significand) e).map (signed negative)

/-- The greatest exponent that is computed with; larger ones decide by their sign alone. -/
def exponentLimit : Int := 2147483647

/-- The value of the double with a significand, a power of ten gathered so far and an exponent as
written. -/
def withExponent (negative : Bool) (significand : Nat) (e : Int) :
    Option (Bool × List Nat) → Option Json
  | none => scaled negative significand e
  | some (down, digits) =>
    let written : Int := digitsValue digits
    if exponentLimit < written then
      if significand ≠ 0 ∧ !down then none else some (signed negative ⟨0⟩)
    else if down then scaled negative significand (max (e - written) (-exponentLimit - 1))
    else scaled negative significand (min (e + written) exponentLimit)

/-- The value of a numeral; nothing when it lies beyond the greatest double. -/
def value? (n : Numeral) : Option Json :=
  let (significand, surplus) := gather 0 n.whole
  if n.fraction = [] ∧ n.exponent = none ∧ surplus = [] then
    if !n.negative then some (.int significand)
    else if significand ≠ 0 ∧ significand ≤ Nat.pow 2 63 then some (.int (-(significand : Int)))
    else some (signed true (Binary64.ofNat significand))
  else
    let (significand', dropped) := gather significand n.fraction
    withExponent n.negative significand'
      ((surplus.length : Int) - ((n.fraction.length : Int) - dropped.length)) n.exponent

/-- The whole number a numeral is, when it is one that fits the bounds. -/
def integer? (low high : Int) (n : Numeral) : Option Int :=
  match n.value? with
  | some (.int i) => if low ≤ i ∧ i ≤ high then some i else none
  | _ => none

end CallChain.Json.Numeral
