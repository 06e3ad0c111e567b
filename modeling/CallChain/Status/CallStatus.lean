import CallChain.Fault.History
import CallChain.Json.Decode

/-!
# Call statuses

A call status is a fault as it travels between services: code, messages, history and description.
A success never carries a history.  The receiver rebuilds the fault from code, description and
history; messages and HTTP status come from its own registry.

A status is written as an object of its four fields.  It is read from an object or from an array in
field order, either from the written text or from a JSON value, and missing fields take defaults.
-/

set_option autoImplicit false

namespace CallChain

/-- The least and the greatest number of 64 bits with a sign. -/
def int64Bounds : Int × Int := (-9223372036854775808, 9223372036854775807)

/-- The greatest number of 64 bits without a sign. -/
def nat64Limit : Int := 18446744073709551615

/-- A fault, or success, as it travels between services. -/
structure CallStatus where
  /-- The number of the code. -/
  code : Int
  /-- The messages by locale, as the sender knows them. -/
  message : SortedMap String String
  /-- The frames as texts, oldest first. -/
  stack : List String
  /-- What happened, in words. -/
  description : String
  deriving DecidableEq

namespace CallStatus

def empty : CallStatus := ⟨0, .empty, [], ""⟩

/-- The status of success in a registry. -/
def success (r : CodeRegistry) : CallStatus :=
  let coder := r.lookup r.successCode
  ⟨coder.code, coder.messages, [], ""⟩

/-- Whether the code is that of success. -/
def isSuccess (r : CodeRegistry) (s : CallStatus) : Bool := s.code == r.successCode

/-- The status that reports a fault, or success when there is none. -/
def ofFault (r : CodeRegistry) : Option Fault → CallStatus
  | none => success r
  | some f =>
    let s : CallStatus := ⟨f.code, f.coder.messages, f.stack, f.description⟩
    if s.isSuccess r then { s with stack := [] } else s

def ofResult {α : Type} (r : CodeRegistry) : Except Fault α → CallStatus
  | .ok _ => ofFault r none
  | .error f => ofFault r (some f)

/-- The fault a status reports; nothing for a missing status and for success. -/
def toFault (r : CodeRegistry) : Option CallStatus → Option Fault
  | none => none
  | some s => if s.isSuccess r then none else some (Fault.ofStack r s.code s.description s.stack)

def toJson (s : CallStatus) : Json :=
  .ofEntries
    [("code", .int s.code), ("message", .ofMap (s.message.mapValues .string)),
      ("stack", .texts s.stack), ("description", .string s.description)]

/-- The keys of the four fields, in field order. -/
def fieldNames : List String := ["code", "message", "stack", "description"]

def reader : Json.Reader CallStatus := fun room d => do
  let (room, found) ← Json.Reader.fields fieldNames room d
  match found with
  | [code, message, stack, description] =>
    let code ←
      Json.Reader.withDefault (Json.Reader.integer int64Bounds.1 int64Bounds.2) 0 room code
    let message ← Json.Reader.withDefault (Json.Reader.map Json.Reader.text) .empty room message
    let stack ← Json.Reader.withDefault (Json.Reader.list Json.Reader.text) [] room stack
    let description ← Json.Reader.withDefault Json.Reader.text "" room description
    return ⟨code, message, stack, description⟩
  | _ => none

/-- The status that bytes write, if they do. -/
def parse? (s : Bytes) : Option CallStatus := reader.run? s

def textOfJson? : Json → Option String
  | .string s => some s
  | _ => none

def codeOfJson? : Json → Option Int
  | .int n => if int64Bounds.1 ≤ n ∧ n ≤ int64Bounds.2 then some n else none
  | _ => none

def messageOfJson? : Json → Option (SortedMap String String)
  | .object entries =>
    (entries.mapM fun e => (textOfJson? e.2).map fun s => (e.1, s)).map SortedMap.ofList
  | _ => none

def stackOfJson? : Json → Option (List String)
  | .array items => items.mapM textOfJson?
  | _ => none

/-- A field from a value that may be missing. -/
def fieldOfJson? {α : Type} (read : Json → Option α) (default : α) : Option Json → Option α
  | none => some default
  | some v => read v

/-- A status from the values of its four fields, each of which may be missing. -/
def ofFields? (code message stack description : Option Json) : Option CallStatus := do
  let code ← fieldOfJson? codeOfJson? 0 code
  let message ← fieldOfJson? messageOfJson? .empty message
  let stack ← fieldOfJson? stackOfJson? [] stack
  let description ← fieldOfJson? textOfJson? "" description
  return ⟨code, message, stack, description⟩

/-- The status a JSON value describes: an object of the fields, or an array of at most four in
order. -/
def ofJson? (v : Json) : Option CallStatus :=
  match v with
  | .object _ => ofFields? (v.get? "code") (v.get? "message") (v.get? "stack") (v.get? "description")
  | .array items =>
    if items.length ≤ 4 then ofFields? items[0]? items[1]? items[2]? items[3]? else none
  | _ => none

end CallStatus

/-- What a reply shows where its call status belongs. -/
inductive StatusField where
  | absent
  | null
  | invalid
  | present (s : CallStatus)
  deriving DecidableEq

namespace StatusField

/-- The key of the status in HTTP replies. -/
def key : String := "callStatus"

/-- The key of the status in remote procedure messages, looked up when the other is missing. -/
def pascalKey : String := "CallStatus"

def ofOption : Option CallStatus → StatusField
  | none => .null
  | some s => .present s

/-- The status, if there is one. -/
def status? : StatusField → Option CallStatus
  | .present s => some s
  | _ => none

/-- What the value in the place of a status amounts to. -/
def ofSlot : Json → StatusField
  | .null => .null
  | v =>
    match CallStatus.ofJson? v with
    | some s => .present s
    | none => .invalid

/-- The place of the status in a JSON value. -/
def ofJson (v : Json) : StatusField :=
  match (v.get? key).or (v.get? pascalKey) with
  | none => .absent
  | some slot => ofSlot slot

end StatusField

end CallChain
