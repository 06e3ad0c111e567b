/-!
# Numbers modulo a prime

Powers, inverses and multiples by repeated doubling.
-/

set_option autoImplicit false

namespace CallChain.Modular

/-- The sum of so many times the same thing, for any addition. -/
def times {α : Type} (add : α → α → α) (zero : α) (n : Nat) (a : α) : α :=
  if n = 0 then zero
  else
    let even := times add zero (n / 2) (add a a)
    if n % 2 = 1 then add a even else even
termination_by n

def power (m base exponent : Nat) : Nat := times (fun a b => a * b % m) (1 % m) exponent (base % m)

/-- The inverse modulo a prime; zero has none and gives zero. -/
def inverse (p n : Nat) : Nat := power p n (p - 2)

def minus (m a b : Nat) : Nat := (a + (m - b % m)) % m

end CallChain.Modular
