import CallChain.Status.CallStatus

/-!
# Replies

A reply is a value that response bodies are decoded into.  A body that does not decode leaves the reply
as it was.  Every type of reply says where its call status is: a JSON value looks under two keys, an
envelope has a field for it, a bare status is its own, and a plain value has no place for one.
-/

set_option autoImplicit false

namespace CallChain

/-- Types that response bodies are decoded into. -/
class Reply (ρ : Type) where
  /-- What a body makes of a reply; nothing when the body does not decode. -/
  decode? : ρ → Bytes → Option ρ
  /-- What the reply shows where its call status belongs. -/
  statusField : ρ → StatusField

instance : Reply Json where
  decode? _ body := Json.parse? body
  statusField := StatusField.ofJson

instance : Reply CallStatus where
  decode? _ body := CallStatus.parse? body
  statusField s := .present s

/-- A JSON value that declares no place for a status. -/
structure Plain where
  value : Json

instance : Reply Plain where
  decode? _ body := (Json.parse? body).map Plain.mk
  statusField _ := .absent

/-- A call status next to a payload, either of which may be missing. -/
structure Envelope (α : Type) where
  callStatus : Option CallStatus
  data : Option α
  deriving DecidableEq

namespace Envelope

variable {α : Type}

def empty : Envelope α := ⟨none, none⟩

/-- The keys of the two fields, in field order. -/
def fieldNames : List String := ["callStatus", "data"]

/-- Reads an envelope around a payload of one kind. -/
def reader (payload : Json.Reader α) : Json.Reader (Envelope α) := fun room d => do
  let (room, found) ← Json.Reader.fields fieldNames room d
  match found with
  | [status, data] =>
    let status ← Json.Reader.withDefault (Json.Reader.orNull CallStatus.reader) none room status
    let data ← Json.Reader.withDefault (Json.Reader.orNull payload) none room data
    return ⟨status, data⟩
  | _ => none

end Envelope

/-- Payload types that have a reader. -/
class Payload (α : Type) where
  reader : Json.Reader α

instance : Payload Json := ⟨Json.Reader.any⟩

/-- An order, known by its number. -/
structure Order where
  /-- The number, at most 64 bits. -/
  id : Nat
  deriving DecidableEq, Repr

/-- Reads an order, whose number has no default. -/
def Order.reader : Json.Reader Order := fun room d => do
  let (room, found) ← Json.Reader.fields ["id"] room d
  match found with
  | [some id] => return ⟨(← Json.Reader.integer 0 nat64Limit room id).toNat⟩
  | _ => none

instance : Payload Order := ⟨Order.reader⟩

instance {α : Type} [Payload α] : Reply (Envelope α) where
  decode? _ body := (Envelope.reader Payload.reader).run? body
  statusField e := .ofOption e.callStatus

/-- A reply held behind a reference, which reads and shows what the reply itself does. -/
structure Boxed (ρ : Type) where
  inner : ρ

instance {ρ : Type} [Reply ρ] : Reply (Boxed ρ) where
  decode? b body := (Reply.decode? b.inner body).map Boxed.mk
  statusField b := Reply.statusField b.inner

/-- A reply of one of the types known by name. -/
inductive AnyReply where
  | value (v : Json)
  | envelope (e : Envelope Json)
  | order (e : Envelope Order)
  | boxed (b : Boxed (Envelope Json))
  | status (s : CallStatus)
  | plain (p : Plain)

namespace AnyReply

/-- The fresh reply of a type known by name. -/
def ofName? : String → Option AnyReply
  | "value" => some (.value .null)
  | "envelope" => some (.envelope .empty)
  | "order" => some (.order .empty)
  | "boxed" => some (.boxed ⟨.empty⟩)
  | "status" => some (.status .empty)
  | "plain" => some (.plain ⟨.null⟩)
  | _ => none

/-- What a body makes of a reply, its type kept. -/
def decode? (r : AnyReply) (body : Bytes) : Option AnyReply :=
  match r with
  | .value v => (Reply.decode? v body).map .value
  | .envelope e => (Reply.decode? e body).map .envelope
  | .order e => (Reply.decode? e body).map .order
  | .boxed b => (Reply.decode? b body).map .boxed
  | .status s => (Reply.decode? s body).map .status
  | .plain p => (Reply.decode? p body).map .plain

/-- What the reply shows where its call status belongs. -/
def statusField : AnyReply → StatusField
  | .value v => Reply.statusField v
  | .envelope e => Reply.statusField e
  | .order e => Reply.statusField e
  | .boxed b => Reply.statusField b
  | .status s => Reply.statusField s
  | .plain p => Reply.statusField p

end AnyReply

instance : Reply AnyReply where
  decode? := AnyReply.decode?
  statusField := AnyReply.statusField

end CallChain
