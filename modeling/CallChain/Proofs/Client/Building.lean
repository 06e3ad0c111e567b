import CallChain.Client.Request
import CallChain.Proofs.Client.Invoke
import CallChain.Proofs.Fault.Registry

/-!
# Requests put together in any order of steps

A request is put together in steps, each of which may set the body, add an option or fail.
`Step.perform_eq` says once what a step does to a request, in terms of three things that are read off the
step alone: `Step.body?`, `Step.option?` and `Step.failure?`.  By induction over the steps, a request put
together from any number of them holds the last body, all options in order and the first failure
(`performAll_eq`).  Whether it is sent depends on that failure only (`heldBack_or_invokes`).
-/

set_option autoImplicit false

namespace CallChain

namespace Request

/-- One step of putting a request together.  A step that can fail has the place it is taken at. -/
inductive Step where
  | json (site : CallSite) (value : Encodable)
  | raw (bytes : Bytes)
  | header (key value : String)
  | addHeader (key value : String)
  | queryValue (key value : String)
  | query (site : CallSite) (value : Encodable)
  | timeout (d : Duration)
  | option (o : CallOption)

namespace Step

/-- The request after one more step. -/
def perform (codes : CodeRegistry) (r : Request) : Step → Request
  | .json site value => r.json codes site value
  | .raw bytes => r.raw bytes
  | .header key value => r.header key value
  | .addHeader key value => r.addHeader key value
  | .queryValue key value => r.queryValue key value
  | .query site value => r.query codes site value
  | .timeout d => r.timeout d
  | .option o => r.option o

/-- The body a step sets. -/
def body? : Step → Option RequestBody
  | .json _ value =>
    match value.toJson with
    | .ok v => some (.json v)
    | .error _ => none
  | .raw bytes => some (.raw bytes)
  | _ => none

/-- The option a step adds. -/
def option? : Step → Option CallOption
  | .header key value => some (.setHeader key [value])
  | .addHeader key value => some (.addHeader key [value])
  | .queryValue key value => some (.setQueryValue key value)
  | .query _ value =>
    match value.toJson with
    | .ok (.object fields) => some (.mergeQuery (queryOf fields))
    | _ => none
  | .timeout d => some (.timeout d)
  | .option o => some o
  | _ => none

/-- The failure of a step: that of a value that cannot be encoded, or of a query that is no object. -/
def failure? (codes : CodeRegistry) : Step → Option Fault
  | .json site value =>
    match value.toJson with
    | .ok _ => none
    | .error e => some (encodingFault codes site e)
  | .query site value =>
    match value.toJson with
    | .ok (.object _) => none
    | .ok _ => some (Fault.wrap codes site Codes.encodingJson "query must serialize to an object")
    | .error e => some (encodingFault codes site e)
  | _ => none

variable {codes : CodeRegistry}

/-- A step that fails does so for an encoding. -/
theorem code_of_failure? (hbuilt : codes.Built) {s : Step} {f : Fault} (h : s.failure? codes = some f) :
    f.code = Codes.encodingJson := by
  have hlookup : (codes.lookup Codes.encodingJson).code = Codes.encodingJson :=
    hbuilt.code_lookup_base (by decide)
  cases s with
  | json site value =>
    simp only [failure?] at h
    split at h
    · cases h
    · cases h
      exact hlookup
  | query site value =>
    simp only [failure?] at h
    split at h
    · cases h
    · cases h
      exact hlookup
    · cases h
      exact hlookup
  | raw | header | addHeader | queryValue | timeout | option => cases h

/-- A step sets the body if it has one, adds its option, and fails unless a step before has failed. -/
theorem perform_eq (r : Request) (s : Step) :
    s.perform codes r =
      ⟨r.method, r.target, s.body?.getD r.body, r.options ++ s.option?.toList,
        r.failure.or (s.failure? codes)⟩ := by
  cases s with
  | json site value =>
    simp only [perform, Request.json, RequestBody.encode, body?, option?, failure?]
    cases value.toJson with
    | ok v => simp [Except.map]
    | error e => simp [Except.map, fail]
  | query site value =>
    simp only [perform, Request.query, body?, option?, failure?]
    cases value.toJson with
    | ok v =>
      cases v with
      | object fields => simp [Request.option]
      | null | bool | int | double | string | array => simp [fail]
    | error e => simp [fail]
  | raw bytes => simp [perform, Request.raw, body?, option?, failure?]
  | header | addHeader | queryValue | timeout | option =>
    simp [perform, Request.header, Request.addHeader, Request.queryValue, Request.timeout,
      Request.option, body?, option?, failure?]

end Step

/-- The request after any number of steps. -/
def performAll (codes : CodeRegistry) (r : Request) (steps : List Step) : Request :=
  steps.foldl (Step.perform codes) r

/-- The body of a request put together in steps: that of the last step that sets one. -/
def bodyOf (steps : List Step) : RequestBody := ((steps.filterMap Step.body?).getLast?).getD .empty

/-- The options of a request put together in steps. -/
def optionsOf (steps : List Step) : List CallOption := steps.filterMap Step.option?

section

variable {codes : CodeRegistry}

theorem getLast?_getD_cons {α : Type} (a? : Option α) (l : List α) (b : α) :
    ((a?.toList ++ l).getLast?).getD b = (l.getLast?).getD (a?.getD b) := by
  cases l with
  | nil => cases a? <;> rfl
  | cons c l => simp [List.getLast?_append, List.getLast?_cons]

/-- A request put together in steps holds the last body, all options, and the first failure. -/
theorem performAll_eq (r : Request) (steps : List Step) :
    performAll codes r steps =
      ⟨r.method, r.target, ((steps.filterMap Step.body?).getLast?).getD r.body,
        r.options ++ optionsOf steps, r.failure.or (steps.findSome? (Step.failure? codes))⟩ := by
  induction steps generalizing r with
  | nil => simp [performAll, optionsOf]
  | cons s steps ih =>
    have hstep : performAll codes r (s :: steps) = performAll codes (s.perform codes r) steps := rfl
    have hbodies : (s :: steps).filterMap Step.body? = s.body?.toList ++ steps.filterMap Step.body? := by
      cases hbody : s.body? <;> simp [hbody]
    have hoptions : optionsOf (s :: steps) = s.option?.toList ++ optionsOf steps := by
      cases hoption : s.option? <;> simp [optionsOf, hoption]
    have hfailures : (s :: steps).findSome? (Step.failure? codes) =
        (s.failure? codes).or (steps.findSome? (Step.failure? codes)) := by
      cases hfailure : s.failure? codes <;> simp [hfailure]
    rw [hstep, ih, Step.perform_eq, hbodies, hoptions, hfailures, getLast?_getD_cons,
      List.append_assoc, Option.or_assoc]

theorem performAll_new (method target : String) (steps : List Step) :
    performAll codes (.new method target) steps =
      ⟨method, target, bodyOf steps, optionsOf steps, steps.findSome? (Step.failure? codes)⟩ := by
  rw [performAll_eq]
  rfl

/-- The first failure is that of a step before which none fails. -/
theorem findSome?_failure? {before after : List Step} {s : Step} {f : Fault}
    (hbefore : ∀ t ∈ before, t.failure? codes = none) (hs : s.failure? codes = some f) :
    (before ++ s :: after).findSome? (Step.failure? codes) = some f := by
  rw [List.findSome?_append, List.findSome?_eq_none_iff.mpr hbefore, List.findSome?_cons, hs]
  rfl

end

/-- A request is held back: sent or fetched, it comes to a failure at once and nothing else.  The world is
left as it was, so no stage has run, nothing has been dialed or sent, and the reply is the caller's. -/
structure HeldBack (r : Request) (c : Client) (f : Fault) : Prop where
  code : f.code = Codes.encodingJson
  send : ∀ {ρ : Type} [Reply ρ] (catalog : Catalog) (ctx : CallContext) (reply : Option ρ),
    r.send c catalog ctx reply = return (.ok (.error ⟨f, none⟩), reply)
  fetch : ∀ {ρ : Type} [Reply ρ] (catalog : Catalog) (ctx : CallContext) (fresh : ρ),
    r.fetch c catalog ctx fresh = return .error ⟨f, none⟩
  untouched : ∀ {ρ : Type} [Reply ρ] (R : Resumption) (catalog : Catalog) (ctx : CallContext)
    (reply : Option ρ) (w w' : World) (o : Except Panic CallResult) (reply' : Option ρ),
    Work.Ends R (r.send c catalog ctx reply) w (o, reply') w' ↔
      o = .ok (.error ⟨f, none⟩) ∧ reply' = reply ∧ w' = w

/-- What a call with a fresh reply comes to, from what the call and its reply came to. -/
def answered {ρ : Type} (fresh : ρ) :
    Except Panic CallResult × Option ρ → Except Panic (Except CallFailure ρ)
  | (.error p, _) => .error p
  | (.ok (.error e), _) => .ok (.error e)
  | (.ok (.ok _), reply) => .ok (.ok (reply.getD fresh))

/-- A request is the call with the given body and options: sent it is that call, and fetched it is that
call with a fresh reply. -/
structure Invokes (r : Request) (c : Client) (method target : String) (body : RequestBody)
    (options : List CallOption) : Prop where
  send : ∀ {ρ : Type} [Reply ρ] (catalog : Catalog) (ctx : CallContext) (reply : Option ρ),
    r.send c catalog ctx reply = c.invoke catalog ctx method target body reply options
  fetch : ∀ {ρ : Type} [Reply ρ] (catalog : Catalog) (ctx : CallContext) (fresh : ρ),
    (r.fetch c catalog ctx fresh).run =
      answered fresh <$> c.invoke catalog ctx method target body (some fresh) options

variable {r : Request} {c : Client}

theorem heldBack_of_failure {f : Fault} (h : r.failure = some f) (hcode : f.code = Codes.encodingJson) :
    r.HeldBack c f := by
  have hsend {ρ : Type} [Reply ρ] (catalog : Catalog) (ctx : CallContext) (reply : Option ρ) :
      r.send c catalog ctx reply = return (.ok (.error ⟨f, none⟩), reply) := by
    rw [send, h]
    rfl
  refine ⟨hcode, hsend, fun catalog ctx fresh => ?_, fun R catalog ctx reply w w' o reply' => ?_⟩
  · rw [fetch, h]
    rfl
  · rw [hsend]
    refine Work.ends_done_iff.trans ?_
    rw [Prod.mk.injEq, and_assoc]

theorem invokes_of_no_failure (h : r.failure = none) : r.Invokes c r.method r.target r.body r.options := by
  refine ⟨fun catalog ctx reply => ?_, fun catalog ctx fresh => ?_⟩
  · rw [send, h]
  · rw [fetch, h, map_eq_pure_bind]
    refine bind_congr fun result => ?_
    obtain ⟨p | e | response, reply⟩ := result <;> rfl

/-- A request put together from any steps is held back with the failure of the first step that fails, and
is the call with the last body and all options if none does. -/
theorem heldBack_or_invokes (c : Client) (hbuilt : c.settings.codes.Built) (method target : String)
    (steps : List Step) :
    (∀ (before after : List Step) (s : Step) (f : Fault), steps = before ++ s :: after →
      (∀ t ∈ before, t.failure? c.settings.codes = none) → s.failure? c.settings.codes = some f →
        (performAll c.settings.codes (.new method target) steps).HeldBack c f) ∧
    ((∀ s ∈ steps, s.failure? c.settings.codes = none) →
      (performAll c.settings.codes (.new method target) steps).Invokes c method target (bodyOf steps)
        (optionsOf steps)) := by
  rw [performAll_new]
  constructor
  · rintro before after s f rfl hbefore hs
    exact heldBack_of_failure (findSome?_failure? hbefore hs) (Step.code_of_failure? hbuilt hs)
  · intro hnone
    exact invokes_of_no_failure (List.findSome?_eq_none_iff.mpr hnone)

/-- Where an order is put together, and where its query is given. -/
def orderAt : CallSite := ⟨"shop/src/order.rs", 30, "order::place"⟩
def queryAt : CallSite := ⟨"shop/src/order.rs", 31, "order::place"⟩

/-- A query that is no object fails the request, although a body that cannot be encoded follows.  Without
them the later of two bodies is sent. -/
theorem heldBack_or_invokes_order :
    let c := Client.scripted .ok []
    (performAll c.settings.codes (.new "POST" "/v1/orders")
      [.raw (Bytes.ofText "order"), .query queryAt (.json (.int 7)), .header "x-tenant" "acme",
        .json orderAt (.declining "no order")]).HeldBack c
      (Fault.wrap c.settings.codes queryAt Codes.encodingJson "query must serialize to an object") ∧
    (performAll c.settings.codes (.new "POST" "/v1/orders")
      [.json orderAt (.json (.int 7)), .header "x-tenant" "acme",
        .raw (Bytes.ofText "order")]).Invokes c
      "POST" "/v1/orders" (.raw (Bytes.ofText "order")) [.setHeader "x-tenant" ["acme"]] := by
  intro c
  have hsteps := heldBack_or_invokes c (.new _) "POST" "/v1/orders"
  constructor
  · refine (hsteps _).1 [.raw (Bytes.ofText "order")]
      [.header "x-tenant" "acme", .json orderAt (.declining "no order")]
      (.query queryAt (.json (.int 7))) _ rfl ?_ rfl
    intro t ht
    rw [List.mem_singleton.mp ht]
    rfl
  · refine (hsteps _).2 ?_
    simp [Step.failure?, Encodable.toJson]

end Request

end CallChain
