import CallChain.Json.Printer

/-!
# Request bodies

A call carries no body, a JSON value or bytes sent as they are.  Whatever a caller offers for encoding
becomes a JSON value first; that fails for a mapping with a key that is no text and cannot be written
as one, and for a value that declines to be encoded.
-/

set_option autoImplicit false

namespace CallChain

/-- Why a value could not be encoded. -/
inductive EncodeError where
  | keyNotText
  | declined (reason : String)
  deriving DecidableEq, Repr

namespace EncodeError

def message : EncodeError → String
  | .keyNotText => "key must be a string"
  | .declined reason => reason

end EncodeError

/-- A value a caller offers for encoding. -/
inductive Encodable where
  | json (v : Json)
  | mapping (entries : List (Json × Json))
  /-- A value of a type that encodes itself, and does not encode this one. -/
  | declining (reason : String)

namespace Encodable

/-- The text a key is written as. -/
def keyText? : Json → Option String
  | .string s => some s
  | .int n => some (toString n)
  | .bool b => some (if b then "true" else "false")
  | .double x => some (Json.doubleText x)
  | _ => none

/-- The entries of a mapping under their texts. -/
def entriesOf : List (Json × Json) → Except EncodeError (List (String × Json))
  | [] => .ok []
  | (k, v) :: r =>
    match keyText? k with
    | none => .error .keyNotText
    | some k => (entriesOf r).map ((k, v) :: ·)

/-- The JSON value of what is offered. -/
def toJson : Encodable → Except EncodeError Json
  | .json v => .ok v
  | .mapping entries => (entriesOf entries).map Json.ofEntries
  | .declining reason => .error (.declined reason)

end Encodable

/-- The body of an outgoing call. -/
inductive RequestBody where
  | empty
  | json (v : Json)
  | raw (bytes : Bytes)

namespace RequestBody

/-- The body that a value offered for encoding makes. -/
def encode (e : Encodable) : Except EncodeError RequestBody := e.toJson.map .json

def isEmpty : RequestBody → Bool
  | .empty => true
  | _ => false

/-- The bytes of the body, if there is one. -/
def bytes? : RequestBody → Option Bytes
  | .empty => none
  | .json v => some (Json.write v)
  | .raw b => some b

end RequestBody

end CallChain
