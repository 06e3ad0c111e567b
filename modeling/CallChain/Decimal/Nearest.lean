import CallChain.Decimal.Shortest

/-!
# The double nearest to a decimal

A decimal is a quotient of natural numbers and is rounded once.  Decimals far outside the range of
doubles are settled by their size alone, so an exponent of many digits costs nothing.
-/

set_option autoImplicit false

namespace CallChain.Decimal

/-- Every decimal of at least `10 ^ farOut` is infinite as a double, and every one below
`10 ^ (-farOut)` is zero. -/
def farOut : Int := 400

/-- The double nearest to a nonnegative decimal. -/
def nearest (d : Decimal) : Binary64 :=
  let size : Int := d.exponent + (Nat.toDigits 10 d.digits).length
  if d.digits = 0 ∨ size < -farOut then ⟨0⟩
  else if farOut < size then ⟨Binary64.infinityWord⟩
  else if 0 ≤ d.exponent then Binary64.ofQuotient (d.digits * Nat.pow 10 d.exponent.toNat) 1
  else Binary64.ofQuotient d.digits (Nat.pow 10 (-d.exponent).toNat)

end CallChain.Decimal
