import CallChain.Client.Basic

/-!
# Requests put together step by step

A request collects method, target, body and options.  The first value that cannot be encoded is kept as
the outcome: such a request is never sent, whatever is set afterwards.
-/

set_option autoImplicit false

namespace CallChain

/-- A call being put together. -/
structure Request where
  method : String
  target : String
  body : RequestBody
  options : List CallOption
  failure : Option Fault

namespace Request

/-- The request of a method and a target. -/
def new (method target : String) : Request := ⟨method, target, .empty, [], none⟩

/-- The request with a failure, unless it has one. -/
def fail (r : Request) (f : Fault) : Request := { r with failure := r.failure.or (some f) }

def option (r : Request) (o : CallOption) : Request := { r with options := r.options ++ [o] }

/-- The failure of a value that cannot be encoded, at the place where it was given. -/
def encodingFault (codes : CodeRegistry) (site : CallSite) (e : EncodeError) : Fault :=
  Fault.wrapCause codes site Codes.encodingJson (.other e.message)

def json (r : Request) (codes : CodeRegistry) (site : CallSite) (value : Encodable) : Request :=
  match RequestBody.encode value with
  | .ok body => { r with body := body }
  | .error e => r.fail (encodingFault codes site e)

def raw (r : Request) (bytes : Bytes) : Request := { r with body := .raw bytes }

def header (r : Request) (key value : String) : Request := r.option (.setHeader key [value])

def addHeader (r : Request) (key value : String) : Request := r.option (.addHeader key [value])

def queryValue (r : Request) (key value : String) : Request := r.option (.setQueryValue key value)

/-- Sets the time the call may take. -/
def timeout (r : Request) (d : Duration) : Request := r.option (.timeout d)

/-- The text of a value in a query: a text itself, anything else as JSON. -/
def scalar : Json → String
  | .string s => s
  | v => v.render

/-- The query with one field of an object: nothing for null, every item of an array. -/
def addField (q : Query) (field : String × Json) : Query :=
  match field.2 with
  | .null => q
  | .array items => q.set field.1 (items.map scalar)
  | v => q.insert field.1 (scalar v)

/-- The query parameters of the fields of an object. -/
def queryOf (fields : List (String × Json)) : Query := fields.foldl addField .empty

/-- Sets the fields of an object as query parameters. -/
def query (r : Request) (codes : CodeRegistry) (site : CallSite) (value : Encodable) : Request :=
  match value.toJson with
  | .error e => r.fail (encodingFault codes site e)
  | .ok (.object fields) => r.option (.mergeQuery (queryOf fields))
  | .ok _ =>
    r.fail (Fault.wrap codes site Codes.encodingJson "query must serialize to an object")

variable {ρ : Type}

/-- Sends the request, unless it holds a failure. -/
def send [Reply ρ] (r : Request) (c : Client) (catalog : Catalog) (ctx : CallContext)
    (reply : Option ρ) : Work (Except Panic CallResult × Option ρ) :=
  match r.failure with
  | some f => return (.ok (.error (.new f)), reply)
  | none => c.invoke catalog ctx r.method r.target r.body reply r.options

/-- Sends the request and decodes the response into a fresh reply. -/
def fetch [Reply ρ] (r : Request) (c : Client) (catalog : Catalog) (ctx : CallContext) (fresh : ρ) :
    Attempt (Except CallFailure ρ) :=
  match r.failure with
  | some f => return .error (.new f)
  | none => c.fetch catalog ctx r.method r.target r.body fresh r.options

end Request

end CallChain
