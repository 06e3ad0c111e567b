import CallChain.Text.Bytes
import CallChain.Tls.Digest
import CallChain.Tls.Modular

/-!
# The Edwards curve

The curve `y² - x² = 1 + d x² y²` over the numbers modulo `2 ^ 255 - 19`.  A key is made from a seed of
32 bytes: half of its digest is the secret number, and the generator taken so often is the public
point, of which `y` and the last bit of `x` are written.
-/

set_option autoImplicit false

namespace CallChain.Edwards

def prime : Nat := Nat.pow 2 255 - 19

/-- The number `d` of the curve. -/
def coefficient : Nat :=
  0x52036CEE2B6FFE738CC740797779E89800700A4D4141D8AB75EB4DCA135978A3

/-- A point. -/
abbrev Point := Nat × Nat

def generator : Point :=
  (0x216936D3CD6E53FEC0A4E231FDD6DC5C692CC7609525A7B2C9562D608F25D51A,
    0x6666666666666666666666666666666666666666666666666666666666666658)

def neutral : Point := (0, 1)

def add (p q : Point) : Point :=
  let product := coefficient * (p.1 * q.1 % prime) * (p.2 * q.2 % prime) % prime
  let x := (p.1 * q.2 + p.2 * q.1) * Modular.inverse prime (1 + product)
  let y := (p.2 * q.2 + p.1 * q.1) * Modular.inverse prime (Modular.minus prime 1 product)
  (x % prime, y % prime)

/-- The number whose bytes these are, the least first. -/
def numberOf (b : Bytes) : Nat := b.foldr (fun x n => x.toNat + 0x100 * n) 0

/-- So many bytes of a number, the least first. -/
def writeNumber : Nat → Nat → Bytes
  | 0, _ => []
  | size + 1, n => Bytes.ofNat (n % 0x100) :: writeNumber size (n / 0x100)

/-- The secret number of a seed: a multiple of eight with its highest bit at a fixed place. -/
def secret (seed : Bytes) : Nat :=
  let n := numberOf ((Digest.ofBytes seed).take 32)
  n % Nat.pow 2 254 / 8 * 8 + Nat.pow 2 254

def publicPoint (seed : Bytes) : Point := Modular.times add neutral (secret seed) generator

def writePoint (p : Point) : Bytes := writeNumber 32 (p.2 + p.1 % 2 * Nat.pow 2 255)

end CallChain.Edwards
