import CallChain.Tls.Curve
import CallChain.Tls.Edwards
import CallChain.Tls.Pem

/-!
# Private keys

The keys a client can sign with: of RSA, of the two elliptic curves and of the Edwards curve.  A key is
read only if its numbers fit each other, and it tells its public key in the form that certificates
have it in.
-/

set_option autoImplicit false

namespace CallChain

/-- A private key, as far as its public key depends on it. -/
inductive PrivateKey where
  | rsa (modulus exponent : Nat)
  | ec (curve : Curve) (secret : Nat)
  | edwards (seed : Bytes)
  deriving DecidableEq, Repr

namespace PrivateKey

open Der

/-! ## Kinds of keys -/

def rsaKind : Bytes :=
  write objectId [0x2A, 0x86, 0x48, 0x86, 0xF7, 0x0D, 0x01, 0x01, 0x01] ++ [0x05, 0x00]

/-- The name of keys of a curve. -/
def ecKind (c : Curve) : Bytes :=
  write objectId [0x2A, 0x86, 0x48, 0xCE, 0x3D, 0x02, 0x01] ++ write objectId c.id

/-- The name of keys of the Edwards curve. -/
def edwardsKind : Bytes := write objectId [0x2B, 0x65, 0x70]

/-- A public key with the name of its kind. -/
def publicInfo (kind key : Bytes) : Bytes := write sequence kind ++ write bitString (0 :: key)

/-- The public key with the name of its kind. -/
def publicKey : PrivateKey → Bytes
  | .rsa modulus exponent =>
    publicInfo rsaKind (write sequence (writeNatural modulus ++ writeNatural exponent))
  | .ec curve secret => publicInfo (ecKind curve) (curve.writePoint (curve.publicPoint secret))
  | .edwards seed => publicInfo edwardsKind (Edwards.writePoint (Edwards.publicPoint seed))

/-! ## The envelope of a key with the name of its kind -/

/-- An envelope. -/
structure Envelope where
  /-- The version of the format, counted from zero. -/
  version : Nat
  /-- The name of the kind of key. -/
  kind : Bytes
  /-- The private key. -/
  content : Bytes
  /-- The public key, which the second version of the format has room for. -/
  publicKey : Option Bytes

def envelope : Reader Envelope :=
  nested sequence do
    let version ← natural
    let kind ← element sequence
    let content ← element octetString
    let _ ← optional (numbered 0)
    if version = 0 ∨ (← isAtEnd) then return ⟨version, kind, content, none⟩
    else return ⟨version, kind, content, some (← nested (numbered 1) fullBits)⟩

/-- What an envelope holds that is of the first version and of a kind. -/
def plainContent? (kind : Bytes) (b : Bytes) : Option Bytes := do
  let e ← whole envelope b
  if e.version = 0 ∧ e.kind = kind then some e.content else none

/-! ## RSA -/

/-- The numbers of a key of RSA. -/
structure RsaNumbers where
  modulus : Nat
  exponent : Nat
  secret : Nat
  primes : Nat × Nat
  exponents : Nat × Nat
  coefficient : Nat

def bitLength (n : Nat) : Nat := if n = 0 then 0 else n.log2 + 1

/-- Whether the numbers fit each other and are of a size that is used. -/
def RsaNumbers.areSound (n : RsaNumbers) : Bool :=
  let (p, q) := n.primes
  let half := bitLength n.modulus / 2
  2048 ≤ bitLength n.modulus && bitLength n.modulus ≤ 4096 && p * q == n.modulus && q < p &&
    half % 512 == 0 && bitLength p == half && bitLength q == half && p % 2 == 1 && q % 2 == 1 &&
    65537 ≤ n.exponent && n.exponent < Nat.pow 2 33 && n.exponent % 2 == 1 &&
    half < bitLength n.secret && n.secret < n.modulus && n.secret % 2 == 1 &&
    n.exponents.1 < p && n.exponents.1 % 2 == 1 && n.exponents.2 < q && n.exponents.2 % 2 == 1 &&
    n.coefficient < p && n.coefficient * q % p == 1

/-- Takes the numbers of a key of RSA. -/
def rsaNumbers : Reader RsaNumbers :=
  nested sequence do
    let version ← natural
    let modulus ← natural
    let exponent ← natural
    let secret ← natural
    let p ← natural
    let q ← natural
    let forP ← natural
    let forQ ← natural
    let coefficient ← natural
    if version = 0 then return ⟨modulus, exponent, secret, (p, q), (forP, forQ), coefficient⟩
    else failure

/-- The key of RSA that bytes write. -/
def rsa? (b : Bytes) : Option PrivateKey := do
  let n ← whole rsaNumbers b
  if n.areSound then some (.rsa n.modulus n.exponent) else none

/-! ## Curves -/

/-- Takes the secret bytes of a key of a curve and the public point, which must be there. -/
def ecParts (c : Curve) : Reader (Bytes × Bytes) :=
  nested sequence do
    let version ← natural
    let secret ← element octetString
    let curve ← optional (numbered 0)
    let point ← nested (numbered 1) fullBits
    if version = 1 ∧ curve.all (· == write objectId c.id) then return (secret, point) else failure

/-- The key of a curve that bytes write. -/
def ec? (c : Curve) (b : Bytes) : Option PrivateKey := do
  let (secret, point) ← whole (ecParts c) b
  let n := numberOf secret
  if secret.length = c.size ∧ 0 < n ∧ n < c.order ∧ point = c.writePoint (c.publicPoint n) then
    some (.ec c n)
  else none

/-- The curves that keys are made on. -/
def curves : List Curve := [.p256, .p384]

/-- The key of the Edwards curve in an envelope. -/
def edwards? (b : Bytes) : Option PrivateKey := do
  let e ← whole envelope b
  let seed ← whole (element octetString) e.content
  if e.version ≤ 1 ∧ e.kind = edwardsKind ∧ seed.length = 32 ∧
      e.publicKey.all (· == Edwards.writePoint (Edwards.publicPoint seed)) then
    some (.edwards seed)
  else none

/-! ## Keys in blocks -/

def enveloped? (b : Bytes) : Option PrivateKey :=
  ((plainContent? rsaKind b).bind rsa? <|>
    curves.findSome? fun c => (plainContent? (ecKind c) b).bind (ec? c)) <|> edwards? b

/-- Whether blocks of a kind hold private keys. -/
def isKind (kind : Pem.Kind) : Bool :=
  kind == .privateKey || kind == .rsaPrivateKey || kind == .ecPrivateKey

def ofBlock? (block : Pem.Block) : Option PrivateKey :=
  match block.kind with
  | .privateKey => enveloped? block.content
  | .rsaPrivateKey => rsa? block.content
  | .ecPrivateKey => curves.findSome? fun c => ec? c block.content
  | _ => none

end PrivateKey

end CallChain
