import CallChain.Data.ValueMap
import CallChain.Duration
import CallChain.Fault.History
import CallChain.Json.Printer
import CallChain.Text.Bytes

/-!
# Requests and responses on the wire

What is handed to a transport, what comes back from it, and what can go wrong there.  A completed
exchange is kept as a `RawResponse`, and a failed call carries it when one arrived.
-/

set_option autoImplicit false

namespace CallChain

/-- A request ready for the wire. -/
structure TransportRequest where
  method : String
  url : String
  headers : Headers
  body : Option Bytes
  timeout : Option Duration
  deriving DecidableEq

def TransportRequest.toJson (r : TransportRequest) : Json :=
  .ofEntries
    [("method", .string r.method), ("url", .string r.url), ("headers", r.headers.toJson),
      ("body", .orNull .ofBytes r.body), ("timeout_ms", Duration.millisOrNull r.timeout)]

/-- What came back from the wire. -/
structure TransportResponse where
  status : Nat
  statusText : String
  headers : Headers
  /-- The cookies set by the server, as they were written. -/
  cookies : List String
  body : Bytes
  deriving DecidableEq

namespace TransportResponse

/-- A response with a status and a body only. -/
def new (status : Nat) (body : Bytes) : TransportResponse := ⟨status, "", .empty, [], body⟩

/-- A response that carries a JSON value. -/
def json (status : Nat) (v : Json) : TransportResponse :=
  { new status (Json.write v) with
    headers := ValueMap.empty.insert "content-type" "application/json" }

/-- A response that reports success and gives a value as its data. -/
def success (data : Json) : TransportResponse :=
  json 200 (.ofEntries
    [("callStatus", .ofEntries
        [("code", .int Codes.success), ("message", .ofEntries []), ("stack", .array []),
          ("description", .string "")]),
      ("data", data)])

end TransportResponse

/-- What can go wrong on the wire. -/
inductive TransportError where
  | connect (reason : String)
  | tls (reason : String)
  | invalidRequest (reason : String)
  | send (reason : String)
  | timeout (limit : Duration)
  | cancelled (reason : String)
  deriving DecidableEq, Repr

namespace TransportError

def message : TransportError → String
  | .connect reason => "connect failed: " ++ reason
  | .tls reason => "tls setup failed: " ++ reason
  | .invalidRequest reason => "invalid request: " ++ reason
  | .send reason => "send failed: " ++ reason
  | .timeout limit => "request timed out after " ++ limit.text
  | .cancelled reason => "request cancelled: " ++ reason

end TransportError

/-- A completed exchange, as it was before anything was decoded. -/
structure RawResponse where
  statusCode : Nat
  status : String
  headers : Headers
  body : Bytes
  cookies : List String
  requestUrl : String
  requestAddr : String
  requestHeaders : Headers
  deriving DecidableEq

namespace RawResponse

def empty : RawResponse := ⟨0, "", .empty, [], [], "", "", .empty⟩

/-- Whether the status is one of success. -/
def isSuccess (r : RawResponse) : Bool := 200 ≤ r.statusCode && r.statusCode < 300

/-- A response that belongs to no request. -/
def ofResponse (r : TransportResponse) : RawResponse :=
  { empty with statusCode := r.status, status := r.statusText, headers := r.headers, body := r.body,
               cookies := r.cookies }

/-- The exchange as the entries of an object. -/
def dataEntries (r : RawResponse) : List (String × Json) :=
  [("status_code", .nat r.statusCode), ("status", .string r.status),
    ("is_success", .bool r.isSuccess), ("headers", r.headers.toJson), ("body", .ofBytes r.body),
    ("cookies", .texts r.cookies), ("request_url", .string r.requestUrl),
    ("request_addr", .string r.requestAddr), ("request_headers", r.requestHeaders.toJson)]

end RawResponse

/-- A failed call: the fault, and the response when one arrived. -/
structure CallFailure where
  fault : Fault
  response : Option RawResponse
  deriving DecidableEq

namespace CallFailure

def new (f : Fault) : CallFailure := ⟨f, none⟩

def withResponse (f : Fault) (r : RawResponse) : CallFailure := ⟨f, some r⟩

/-- The failure with one more frame, code and response kept. -/
def updateStack (r : CodeRegistry) (site : CallSite) (e : CallFailure) : CallFailure :=
  { e with fault := Fault.pushFrame r site e.fault }

end CallFailure

/-- How a call ends when nothing panics. -/
abbrev CallResult := Except CallFailure RawResponse

end CallChain
