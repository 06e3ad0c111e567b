import CallChain.Text.Quoted
import CallChain.Work.Attempt

/-!
# Call options

An option is one change to what a call is made with.  The options of a call are applied in order to an
empty `CallInfo`, the defaults of the client first, so a later option that replaces wins over an
earlier one, and options that add only ever add.
-/

set_option autoImplicit false

namespace CallChain

/-- A value a caller passes along with a call for stages to look at. -/
inductive PassedData where
  | text (s : String)
  | number (n : Nat)
  deriving DecidableEq, Repr

namespace PassedData

/-- The text, if it is one. -/
def text? : PassedData → Option String
  | .text s => some s
  | .number _ => none

/-- The number, if it is one. -/
def number? : PassedData → Option Nat
  | .text _ => none
  | .number n => some n

end PassedData

/-- One change to what a call is made with. -/
inductive CallOption where
  | timeout (d : Duration)
  | setHeaders (h : Headers)
  | setHeader (key : String) (values : List String)
  | addHeaders (h : Headers)
  | addHeader (key : String) (values : List String)
  | setQuery (q : Query)
  | mergeQuery (q : Query)
  | setQueryValue (key value : String)
  | addQuery (q : Query)
  /-- Adds a value to one query parameter; an empty key does nothing. -/
  | addQueryValue (key value : String)
  | url (resolver : Action String)
  | endpoint (address : String)
  | responseNotParse
  | processRequest (process : TransportRequest → Action TransportRequest)
  | stages (names : List String)
  | data (d : PassedData)

/-- What one call is made with. -/
structure CallInfo where
  timeout : Option Duration
  headers : Headers
  query : Query
  responseNotParse : Bool
  url : Option (Action String)
  process : Option (TransportRequest → Action TransportRequest)
  data : Option PassedData
  endpoint : Option String
  stages : Option (List String)

namespace CallInfo

/-- What a call without options is made with. -/
def empty : CallInfo := ⟨none, .empty, .empty, false, none, none, none, none, none⟩

def apply (i : CallInfo) : CallOption → CallInfo
  | .timeout d => { i with timeout := some d }
  | .setHeaders h => { i with headers := h }
  | .setHeader k vs => { i with headers := i.headers.set k vs }
  | .addHeaders h => { i with headers := i.headers.extend h }
  | .addHeader k vs => { i with headers := i.headers.append k vs }
  | .setQuery q => { i with query := q }
  | .mergeQuery q => { i with query := i.query.merge q }
  | .setQueryValue k v => if k = "" then i else { i with query := i.query.insert k v }
  | .addQuery q => { i with query := i.query.extend q }
  | .addQueryValue k v => if k = "" then i else { i with query := i.query.add k v }
  | .url r => { i with url := some r }
  | .endpoint e => { i with endpoint := some e }
  | .responseNotParse => { i with responseNotParse := true }
  | .processRequest p => { i with process := some p }
  | .stages names => { i with stages := some names }
  | .data d => { i with data := some d }

/-- What a call with a list of options is made with. -/
def ofOptions (options : List CallOption) : CallInfo := options.foldl apply empty

end CallInfo

namespace CallOption

/-- The options of a client followed by those of a call. -/
def combine (defaults call : List CallOption) : List CallOption :=
  if defaults.isEmpty then call else defaults ++ call

/-- A map of values shown for diagnosis. -/
def describeValues {c : KeyCase} (m : ValueMap c) : String :=
  Text.showRecord "ValueMap"
    [("entries", Text.showEntries
      (m.entries.entries.map fun e => (Text.quote e.1, Text.showList (e.2.map Text.quote))))]

/-- An option shown for diagnosis; what is no data is not shown. -/
def describe : CallOption → String
  | .timeout d => Text.showCall "Timeout" [d.text]
  | .setHeaders h => Text.showCall "SetHeaders" [describeValues h]
  | .setHeader k vs => Text.showCall "SetHeader" [Text.quote k, Text.showList (vs.map Text.quote)]
  | .addHeaders h => Text.showCall "AddHeaders" [describeValues h]
  | .addHeader k vs => Text.showCall "AddHeader" [Text.quote k, Text.showList (vs.map Text.quote)]
  | .setQuery q => Text.showCall "SetQuery" [describeValues q]
  | .mergeQuery q => Text.showCall "MergeQuery" [describeValues q]
  | .setQueryValue k v => Text.showCall "SetQueryValue" [Text.quote k, Text.quote v]
  | .addQuery q => Text.showCall "AddQuery" [describeValues q]
  | .addQueryValue k v => Text.showCall "AddQueryValue" [Text.quote k, Text.quote v]
  | .url _ => "Url(..)"
  | .endpoint e => Text.showCall "Endpoint" [Text.quote e]
  | .responseNotParse => "ResponseNotParse"
  | .processRequest _ => "ProcessRequest(..)"
  | .stages names => Text.showCall "Interceptors" [Text.showList (names.map Text.quote)]
  | .data _ => "Data(..)"

end CallOption

namespace CallInfo

/-- What a call is made with, shown for diagnosis. -/
def describe (i : CallInfo) : String :=
  Text.showRecord "CallInfo"
    [("timeout", Text.showOption (i.timeout.map Duration.text)),
      ("headers", CallOption.describeValues i.headers),
      ("query", CallOption.describeValues i.query),
      ("response_not_parse", Text.showFlag i.responseNotParse),
      ("url", Text.showFlag i.url.isSome), ("process", Text.showFlag i.process.isSome),
      ("data", Text.showFlag i.data.isSome),
      ("endpoint", Text.showOption (i.endpoint.map Text.quote)),
      ("interceptors",
        Text.showOption (i.stages.map fun names => Text.showList (names.map Text.quote)))]

end CallInfo

end CallChain
