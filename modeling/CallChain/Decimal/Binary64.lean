/-!
# Double-precision numbers as words

A double is its 64-bit word.  A finite one stands for `± m · 2 ^ q`; every operation computes the
exact result as a quotient of natural numbers and rounds it once, to the nearest double and to the
even one of two equally near.  Nothing here depends on the machine's own arithmetic.
-/

set_option autoImplicit false

namespace CallChain

/-- A double-precision number, as its word. -/
structure Binary64 where
  /-- Sign, exponent and fraction, from the highest bit down. -/
  word : Nat
  deriving DecidableEq, Repr

namespace Binary64

def signBit : Nat := Nat.pow 2 63

/-- The first power of two above the fraction field. -/
def fractionLimit : Nat := Nat.pow 2 52

def infinityWord : Nat := 2047 * Nat.pow 2 52

def isNegative (x : Binary64) : Bool := signBit ≤ x.word

def magnitude (x : Binary64) : Nat := x.word % signBit

/-- Whether the number is infinite (or no number). -/
def isInfinite (x : Binary64) : Bool := infinityWord ≤ x.magnitude

/-- Whether the number is one of the two zeros. -/
def isZero (x : Binary64) : Bool := x.magnitude == 0

/-- The number with its sign bit turned. -/
def negate (x : Binary64) : Binary64 :=
  ⟨if x.isNegative then x.word - signBit else x.word + signBit⟩

def exponentField (x : Binary64) : Nat := x.magnitude / fractionLimit

/-- The significand `m` of a finite magnitude `m · 2 ^ (shift - 1074)`. -/
def significand (x : Binary64) : Nat :=
  if x.exponentField = 0 then x.magnitude
  else fractionLimit + x.magnitude % fractionLimit

/-- How far the last place of the significand lies above `2 ^ (-1074)`. -/
def shift (x : Binary64) : Nat := x.exponentField - 1

/-- The quotient of two numbers, rounded to the nearest whole number and from the middle to the even
one. -/
def roundQuotient (num den : Nat) : Nat :=
  let q := num / den
  let r := num % den
  if 2 * r < den then q
  else if den < 2 * r then q + 1
  else if q % 2 = 0 then q else q + 1

/-- The place that the last bit of `num / den` takes, counted from `2 ^ (-1074)`: the least at
which the quotient stays below `2 ^ 53`. -/
def lastPlace (num den : Nat) : Nat :=
  let guess := (num.log2 + 1074) - (den.log2 + 53)
  if num * Nat.pow 2 1074 < den * Nat.pow 2 (guess + 53) then guess
  else if num * Nat.pow 2 1074 < den * Nat.pow 2 (guess + 54) then guess + 1
  else guess + 2

/-- The nonnegative double nearest to `num / den`; beyond the greatest one it is infinity. -/
def ofQuotient (num den : Nat) : Binary64 :=
  let place := lastPlace num den
  let m := roundQuotient (num * Nat.pow 2 1074) (den * Nat.pow 2 place)
  let word := if m < fractionLimit then m else place * fractionLimit + m
  ⟨if infinityWord ≤ word then infinityWord else word⟩

/-- The double nearest to a natural number. -/
def ofNat (n : Nat) : Binary64 := ofQuotient n 1

/-- The product of two nonnegative finite doubles. -/
def mul (x y : Binary64) : Binary64 :=
  ofQuotient (x.significand * Nat.pow 2 x.shift * (y.significand * Nat.pow 2 y.shift))
    (Nat.pow 2 1074 * Nat.pow 2 1074)

/-- The quotient of a nonnegative finite double by a positive one. -/
def div (x y : Binary64) : Binary64 :=
  ofQuotient (x.significand * Nat.pow 2 x.shift) (y.significand * Nat.pow 2 y.shift)

end Binary64

end CallChain
