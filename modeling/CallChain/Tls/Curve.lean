import CallChain.Tls.Der
import CallChain.Tls.Modular

/-!
# Elliptic curves

The curves `y² = x³ - 3x + b` over the numbers modulo a prime that keys are made on.  The public
point of a key is the generator taken as often as the secret number says.
-/

set_option autoImplicit false

namespace CallChain

/-- A curve. -/
structure Curve where
  prime : Nat
  order : Nat
  generator : Nat × Nat
  size : Nat
  id : Bytes
  deriving DecidableEq, Repr

namespace Curve

/-- A point of a curve; nothing for the one at infinity. -/
abbrev Point := Option (Nat × Nat)

/-- The third point of the line through a point with a slope, mirrored. -/
def along (c : Curve) (slope : Nat) (p : Nat × Nat) (x : Nat) : Nat × Nat :=
  let third := Modular.minus c.prime (slope * slope) (p.1 + x)
  (third, Modular.minus c.prime (slope * Modular.minus c.prime p.1 third) p.2)

def add (c : Curve) : Point → Point → Point
  | none, q => q
  | p, none => p
  | some p, some q =>
    if p.1 ≠ q.1 then
      let slope := Modular.minus c.prime q.2 p.2 *
        Modular.inverse c.prime (Modular.minus c.prime q.1 p.1) % c.prime
      some (c.along slope p q.1)
    else if p.2 = q.2 ∧ p.2 ≠ 0 then
      let slope := Modular.minus c.prime (3 * p.1 * p.1) 3 *
        Modular.inverse c.prime (2 * p.2) % c.prime
      some (c.along slope p q.1)
    else none

def publicPoint (c : Curve) (secret : Nat) : Point :=
  Modular.times c.add none secret (some c.generator)

/-- A point as it is written, without compression. -/
def writePoint (c : Curve) : Point → Bytes
  | none => [0]
  | some (x, y) => 4 :: (Der.paddedBytes c.size x ++ Der.paddedBytes c.size y)

/-- The curve of 256 bits. -/
def p256 : Curve where
  prime := 0xFFFFFFFF00000001000000000000000000000000FFFFFFFFFFFFFFFFFFFFFFFF
  order := 0xFFFFFFFF00000000FFFFFFFFFFFFFFFFBCE6FAADA7179E84F3B9CAC2FC632551
  generator :=
    (0x6B17D1F2E12C4247F8BCE6E563A440F277037D812DEB33A0F4A13945D898C296,
      0x4FE342E2FE1A7F9B8EE7EB4A7C0F9E162BCE33576B315ECECBB6406837BF51F5)
  size := 32
  id := [0x2A, 0x86, 0x48, 0xCE, 0x3D, 0x03, 0x01, 0x07]

/-- The curve of 384 bits. -/
def p384 : Curve where
  prime := Nat.pow 2 384 - Nat.pow 2 128 - Nat.pow 2 96 + Nat.pow 2 32 - 1
  order :=
    0xFFFFFFFFFFFFFFFFFFFFFFFFFFFFFFFFFFFFFFFFFFFFFFFFC7634D81F4372DDF581A0DB248B0A77AECEC196ACCC52973
  generator :=
    (0xAA87CA22BE8B05378EB1C71EF320AD746E1D3B628BA79B9859F741E082542A385502F25DBF55296C3A545E3872760AB7,
      0x3617DE4A96262C6F5D9E98BF9292DC29F8F41DBD289A147CE9DA3113B5F0B8C00A60B1CE1D7E819D7A431D7C90EA0E5F)
  size := 48
  id := [0x2B, 0x81, 0x04, 0x00, 0x22]

end Curve

end CallChain
