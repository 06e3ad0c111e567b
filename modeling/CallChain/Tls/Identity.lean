import CallChain.Tls.Certificate
import CallChain.Tls.PrivateKey

/-!
# Identities

With an identity a client shows who it is: a certificate, those that vouch for it, and the private key
that belongs to it.  A text is an identity if it has such blocks and no others.  Whether they can be
used is a second question: the key must be one that can sign, and the first certificate must be for
that key.
-/

set_option autoImplicit false

namespace CallChain

/-- The blocks of an identity. -/
structure Identity where
  /-- The certificates; the first is for the key. -/
  certificates : List Bytes
  /-- The private key. -/
  key : Pem.Block
  deriving DecidableEq, Repr

namespace Identity

/-- The identity that blocks make; of several keys the last one counts. -/
def ofBlocks? (blocks : List Pem.Block) : Option Identity :=
  let certificates := Pem.contents .certificate blocks
  if blocks.all (fun b => b.kind == .certificate || PrivateKey.isKind b.kind) &&
      !certificates.isEmpty then
    (blocks.filter fun b => PrivateKey.isKind b.kind).getLast?.map fun key => ⟨certificates, key⟩
  else none

def ofText? (s : String) : Option Identity := (Pem.blocks? s).bind ofBlocks?

/-- Whether the first certificate is for the key. -/
def isUsable (i : Identity) : Bool :=
  match PrivateKey.ofBlock? i.key, i.certificates.head?.bind Certificate.ofBytes? with
  | some key, some certificate => certificate.publicKey == key.publicKey
  | _, _ => false

end Identity

end CallChain
