import CallChain.Tls.Der
import CallChain.Tls.Pem

/-!
# Certificates

A certificate binds a public key to a subject.  A certificate is read for its structure alone, and the
signature is left to the handshake.  An authority is trusted as it is, so it may also have the first
version of the format, which has no extensions.
-/

set_option autoImplicit false

namespace CallChain

/-- What is read off a certificate. -/
structure Certificate where
  /-- Whom the key belongs to. -/
  subject : Bytes
  /-- The public key with the name of its kind. -/
  publicKey : Bytes
  deriving DecidableEq, Repr

namespace Certificate

open Der

/-- What a certificate consists of. -/
structure Parts where
  signed : Bytes
  algorithm : Bytes

def parts : Reader Parts :=
  nested sequence do
    let signed ← element sequence
    let algorithm ← element sequence
    let _ ← fullBits
    return ⟨signed, algorithm⟩

/-- An extension. -/
structure Extension where
  id : Bytes
  critical : Bool
  value : Bytes

def extension : Reader Extension := do
  let id ← element objectId
  let critical ← flag
  let value ← element octetString
  return ⟨id, critical, value⟩

/-- The number of the extension for the use of the key. -/
def keyUsage : UInt8 := 15

/-- The numbers of the extensions that are understood: the use of the key, other names of the subject,
whether it is an authority, the names it may vouch for, where lists of revoked certificates are, and
what the certificate may be used for. -/
def understood : List UInt8 := [keyUsage, 17, 19, 30, 31, 37]

/-- The number of an extension that is understood. -/
def Extension.number? (e : Extension) : Option UInt8 :=
  match e.id with
  | [0x55, 0x1D, n] => if understood.contains n then some n else none
  | _ => none

/-- Whether an extension can be accepted: one that is understood holds a sequence, unless it is for the
use of the key, and any other is not critical. -/
def Extension.isSound (e : Extension) : Bool :=
  match e.number? with
  | some n => n == keyUsage || (whole (element sequence) e.value).isSome
  | none => !e.critical

/-- Whether the extensions of a certificate can be accepted; none that is understood may come twice. -/
def areSound (extensions : List Extension) : Bool :=
  let numbers := extensions.filterMap Extension.number?
  extensions.all Extension.isSound && numbers.eraseDups.length == numbers.length

/-- Takes the extensions, which may be left out. -/
def extensions : Reader (List Extension) := do
  match ← optional (numbered 3) with
  | none => return []
  | some content =>
    let list ← (whole (element sequence) content : Option Bytes)
    let items ← (elements sequence list.length list : Option (List Bytes))
    (items.mapM (whole extension) : Option (List Extension))

/-- Takes the issuer, the time and the subject with its key. -/
def holder : Reader Certificate := do
  let _ ← element sequence
  let _ ← element sequence
  let subject ← element sequence
  let publicKey ← element sequence
  return ⟨subject, publicKey⟩

/-- Takes what is signed in the third version of the format. -/
def third (algorithm : Bytes) : Reader Certificate := do
  let version ← nested (numbered 0) natural
  let _ ← element integer
  let signature ← element sequence
  let certificate ← holder
  let extensions ← extensions
  if version = 2 ∧ signature = algorithm ∧ areSound extensions then return certificate else failure

/-- Takes what is signed in the first version of the format. -/
def first : Reader Certificate := do
  let _ ← element integer
  let _ ← element sequence
  holder

def ofBytes? (b : Bytes) : Option Certificate := do
  let p ← whole parts b
  whole (third p.algorithm) p.signed

/-- The certificate of an authority that bytes write. -/
def authority? (b : Bytes) : Option Certificate := do
  let p ← whole parts b
  whole (third p.algorithm) p.signed <|> whole first p.signed

/-- The authorities that a text lists; nothing if one of them cannot be read. -/
def authorities? (s : String) : Option (List Certificate) := do
  let blocks ← Pem.blocks? s
  (Pem.contents .certificate blocks).mapM authority?

end Certificate

end CallChain
