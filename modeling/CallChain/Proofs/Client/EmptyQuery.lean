import CallChain.Proofs.Chain.RequestId
import CallChain.Proofs.Client.Query
import CallChain.Proofs.Client.SendLimit

/-!
# Queries without a pair

A query leaves the URL alone if it has no key.  A key may stand there without values, though: an object
brings one along for each of its empty lists.  Then there is no pair to add, but the URL is read all the
same and put together again with a query (`Query.addTo_of_pairs_eq_nil`).  So a target that cannot be read
fails the call, and any other is sent with a `?` that nothing follows, or rewritten.

`Client.requestsAt_invoke` says for any call without a resolver that its request is made for the address
followed by the target with the query added, and `Client.failsUnsent_invoke` that it fails where the query
cannot be added.  `Request.send_valueless` puts it together.
-/

set_option autoImplicit false

namespace CallChain

open Exchange (Course Processes Readied Unready Watches)

/-! ## The query -/

namespace Query

variable {q : Query}

theorem isEmpty_eq_false {key : String} {values : List String} (h : q.held? key = some values) :
    q.isEmpty = false := by
  rw [Bool.eq_false_iff]
  intro hempty
  have hnone : q.held? key = none := by
    rw [ValueMap.held?, SortedMap.get?, List.isEmpty_iff.mp hempty]
    rfl
  cases hnone.symm.trans h

/-- A query of keys without values has no pair. -/
theorem pairs_eq_nil (h : ∀ key values, q.held? key = some values → values = []) : q.pairs = [] := by
  refine List.flatMap_eq_nil_iff.mpr fun e he => ?_
  have hheld : q.held? e.1 = some e.2 :=
    (SortedMap.lookupIn_eq_some_iff (SortedMap.nodup_of_keysIncrease q.entries.increasing)).mpr he
  rw [h e.1 e.2 hheld, List.map_nil]

end Query

/-- The URL with a query, the empty one if it has none. -/
def Url.withMark (u : Url) : Url := { u with query := some (u.query.getD "") }

theorem Url.mark_mem_render (u : Url) : '?' ∈ u.withMark.render.toList := by
  simp [render, withMark]

/-- With keys but no pair, a URL is read and put together again with a query. -/
theorem Query.addTo_of_pairs_eq_nil {q : Query} (hkeys : q.isEmpty = false) (hpairs : q.pairs = [])
    (url : String) :
    q.addTo url = match Url.parse url with
      | .ok u => .ok u.withMark.render
      | .error e => .error (url ++ ": " ++ e.message) := by
  rw [addTo, hkeys, hpairs, if_neg Bool.false_ne_true]
  rfl

/-- Fields that are null or an empty list. -/
def Request.Valueless (fields : List (String × Json)) : Prop :=
  ∀ f ∈ fields, f.2 = .null ∨ f.2 = .array []

namespace Request

variable {fields : List (String × Json)}

/-- Of such fields the empty lists are keys without values, and the others nothing. -/
theorem held?_foldl_addField (h : Valueless fields) (q : Query) (key : String) :
    (key, .array []) ∈ fields ∧ (fields.foldl addField q).held? key = some [] ∨
      (key, .array []) ∉ fields ∧ (fields.foldl addField q).held? key = q.held? key := by
  induction fields generalizing q with
  | nil => exact .inr ⟨List.not_mem_nil, rfl⟩
  | cons f rest ih =>
    obtain ⟨hf, hrest⟩ := List.forall_mem_cons.mp h
    obtain ⟨name, v⟩ := f
    obtain rfl | rfl : v = .null ∨ v = .array [] := hf
    · rcases ih hrest q with ⟨hmem, hheld⟩ | ⟨hmem, hheld⟩
      · exact .inl ⟨List.mem_cons_of_mem _ hmem, hheld⟩
      · exact .inr ⟨by simp [hmem], hheld⟩
    · rcases ih hrest (q.set name []) with ⟨hmem, hheld⟩ | ⟨hmem, hheld⟩
      · exact .inl ⟨List.mem_cons_of_mem _ hmem, hheld⟩
      · have hset : (q.set name []).held? key = if key = name then some [] else q.held? key :=
          ValueMap.held?_set q name key []
        rw [hset] at hheld
        by_cases hkey : key = name
        · subst hkey
          exact .inl ⟨List.mem_cons_self, hheld.trans (if_pos rfl)⟩
        · exact .inr ⟨by simp [hmem, hkey], hheld.trans (if_neg hkey)⟩

theorem queryOf_of_null (h : ∀ f ∈ fields, f.2 = .null) : queryOf fields = .empty := by
  refine ValueMap.ext_held? fun key => ?_
  rcases held?_foldl_addField (fun f hf => .inl (h f hf)) .empty key with ⟨hmem, -⟩ | ⟨-, hheld⟩
  · cases h _ hmem
  · exact hheld

theorem pairs_queryOf (h : Valueless fields) : (queryOf fields).pairs = [] := by
  refine Query.pairs_eq_nil fun key values hheld => ?_
  rcases held?_foldl_addField h .empty key with ⟨-, hkey⟩ | ⟨-, hkey⟩
  · exact Option.some.inj (hheld.symm.trans hkey)
  · cases hheld.symm.trans hkey

theorem isEmpty_queryOf (h : Valueless fields) (hlist : ∃ f ∈ fields, f.2 = .array []) :
    (queryOf fields).isEmpty = false := by
  obtain ⟨⟨key, -⟩, hmem, rfl⟩ := hlist
  rcases held?_foldl_addField h .empty key with ⟨-, hkey⟩ | ⟨hnot, -⟩
  · exact Query.isEmpty_eq_false hkey
  · exact absurd hmem hnot

end Request

/-! ## The URL of a call -/

namespace Exchange

variable {ρ : Type} {R : Resumption} {ctx : CallContext} {i : Invocation ρ} {w w₁ : World}

/-- Without a resolver, the URL is the address followed by the target, with the query added. -/
theorem Readied.url_eq {p : Prepared} {url : String} (h : Readied ctx i w p w₁) (hurl : i.info.url = none)
    (hquery : i.info.query.addTo (i.info.endpoint.getD i.client.address ++ i.target) = .ok url) :
    p.url = url := by
  obtain ⟨hresolver, hadded, -⟩ := h
  rw [resolver, hurl] at hresolver
  cases hresolver
  exact Except.ok.inj (hadded.symm.trans hquery)

theorem unready_of_addTo {reason : String} (hurl : i.info.url = none)
    (hquery : i.info.query.addTo (i.info.endpoint.getD i.client.address ++ i.target) = .error reason) :
    ∃ w₁, Unready ctx i w
        (.ok (.new (Fault.wrap i.codes (i.codes.site .queryFails) Codes.httpError reason))) w₁ ∧
      w₁.requests = w.requests := by
  refine ⟨_, .unparsable ?_ hquery, World.requests_record (fun _ h => by cases h) w⟩
  rw [resolver, hurl]
  rfl

/-- Where no request is made, that is all the fetch comes to. -/
theorem Course.eq_of_unready {x : Except Panic CallFailure} {t : Option Transfer}
    {e : Departure ρ CallResult} (h : Course R ctx i w t e) (hunready : Unready ctx i w x w₁) :
    e = ⟨x.map .error, i, w₁.quiet⟩ := by
  have hfetch : Certain R (fetch ctx : Step ρ RawResponse) i w (x.map .error) w₁ :=
    Certain.bind_fails (certain_prepare_of_unready hunready)
  exact (Call.ends_of_runs hfetch).mp (ends_fetch_iff_course.mpr ⟨t, h⟩)

end Exchange

/-- What is transferred was readied at the center of the chain. -/
theorem Chain.Trip.readied {ρ : Type} [Reply ρ] {R : Resumption} {skippers : List Skipper}
    {bs : List Builtin} {x y : Entrance ρ} {t : Exchange.Transfer} {d : Departure ρ CallResult}
    (h : Trip R skippers bs x (some t) d)
    (hy : y = Builtin.enterAll (passed skippers bs x.invocation) x) :
    ∃ w, Readied y.context y.invocation y.world t.prepared w := by
  subst hy
  cases h with
  | fetched _ hy hcourse =>
    subst hy
    exact hcourse.readied

/-- A call that makes no request at the center of its chain leaves with the failure of that. -/
theorem Chain.Trip.failsWith_of_unready {ρ : Type} [Reply ρ] {R : Resumption} {skippers : List Skipper}
    {bs : List Builtin} {x y : Entrance ρ} {t : Option Exchange.Transfer} {d : Departure ρ CallResult}
    {f : CallFailure} {w : World} (h : Trip R skippers bs x t d)
    (hpasses : ¬ Refused skippers bs x.invocation)
    (hy : y = Builtin.enterAll (passed skippers bs x.invocation) x)
    (hunready : Unready y.context y.invocation y.world (.ok f) w) :
    d.FailsWith x.invocation.codes f ∧ d.world.requests = w.requests := by
  have hentered := Builtin.Entered.enterAll (passed skippers bs x.invocation) x
  have hcodes := congrArg Invocation.codes hentered.invocation
  subst hy
  cases h with
  | refused hrefused => exact absurd hrefused hpasses
  | fetched _ hy hcourse =>
    subst hy
    obtain rfl := hcourse.eq_of_unready hunready
    refine ⟨Builtin.failsWith_leaveAll (Exchange.failsWith_conclusion hcodes rfl _), ?_⟩
    rw [Builtin.requests_leaveAll, Exchange.world_conclusion]
    exact World.requests_quiet w

/-- A call hands over one request at most, made from a draft for the URL. -/
def Work.RequestsAt {α : Type} (R : Resumption) (info : CallInfo) (url : String) (call : Work α) : Prop :=
  ∀ w a w', Work.Ends R call w a w' → ∃ qs, w'.requests = w.requests ++ qs ∧ qs.length ≤ 1 ∧
    ∀ q ∈ qs, ∃ draft : TransportRequest, draft.url = url ∧ Processes info draft q

/-- A call ends, always with the given failure, up to its history, and hands over nothing. -/
structure Work.FailsUnsent {ρ : Type} (R : Resumption) (f : CallFailure)
    (call : Work (Except Panic CallResult × Option ρ)) : Prop where
  ends : ∀ w, ∃ r w', Work.Ends R call w r w'
  only : ∀ w r w', Work.Ends R call w r w' →
    w'.requests = w.requests ∧ ∃ g, r.1 = .ok (.error g) ∧ g.Alike f

namespace Client

variable {ρ : Type} [Reply ρ] {R : Resumption} {c : Client} {catalog : Catalog} {options : List CallOption}
  {bs : List Builtin}

/-- The address followed by a target. -/
def plainUrl (c : Client) (target : String) (options : List CallOption) : String :=
  (CallInfo.ofOptions (c.optionsOf options)).endpoint.getD c.settings.address ++ target

/-- What a call came with is with it at the center of its chain. -/
structure Centered (c : Client) (target : String) (options : List CallOption) (i : Invocation ρ) : Prop where
  client : i.client = c.settings
  plain : i.info.endpoint.getD i.client.address ++ i.target = c.plainUrl target options
  url : i.info.url = (CallInfo.ofOptions (c.optionsOf options)).url
  query : i.info.query = (CallInfo.ofOptions (c.optionsOf options)).query
  process : i.info.process = (CallInfo.ofOptions (c.optionsOf options)).process

omit [Reply ρ] in
theorem centered (ctx : CallContext) (method target : String) (body : RequestBody) (reply : Option ρ)
    (w : World) :
    Centered c target options (c.centerOf catalog ctx method target body reply options bs w).invocation := by
  have hentered := entered_centerOf c catalog ctx method target body reply options bs w
  have hclient := congrArg Invocation.client hentered.invocation
  have htarget := congrArg Invocation.target hentered.invocation
  refine ⟨hclient, ?_, ?_, ?_, ?_⟩
  · rw [hclient, htarget, hentered.info]
    rfl
  · rw [hentered.info]
    rfl
  · rw [hentered.info]
    rfl
  · rw [hentered.info]
    rfl

omit [Reply ρ] in
theorem Centered.codes {target : String} {i : Invocation ρ} (h : Centered c target options i) :
    i.codes = c.settings.codes := congrArg (fun settings : ClientSettings => settings.codes) h.client

/-- Without a resolver, a call makes its request for the address followed by the target with the query. -/
theorem requestsAt_invoke (hchain : c.HasChain catalog options bs)
    (hconnector : c.settings.connector.HandsOver)
    (hinfo : (CallInfo.ofOptions (c.optionsOf options)).Silent)
    (hR : ∀ g w w₁, R g w w₁ → w₁.requests = w.requests)
    (hurl : (CallInfo.ofOptions (c.optionsOf options)).url = none) {target url : String}
    (hquery : (CallInfo.ofOptions (c.optionsOf options)).query.addTo (c.plainUrl target options) = .ok url)
    (ctx : CallContext) (method : String) (body : RequestBody) (reply : Option ρ) :
    (c.invoke catalog ctx method target body reply options).RequestsAt R
      (CallInfo.ofOptions (c.optionsOf options)) url := by
  rintro w ⟨o, reply'⟩ w' h
  obtain ⟨i', hends, -⟩ := (ends_invoke_iff hchain).mp ⟨w', h, rfl⟩
  obtain ⟨t, htrip⟩ := Chain.endsFrom_iff_trip.mp hends
  have hcenter : Centered c target options
      (c.centerOf catalog ctx method target body reply options bs w).invocation := centered ..
  have hwatches : Watches World.requests (fun q => [q])
      (c.centerOf catalog ctx method target body reply options bs w).invocation := by
    refine watches_requests (hcenter.client ▸ hconnector) ⟨?_, ?_⟩
    · rw [hcenter.url]
      exact hinfo.resolver
    · rw [hcenter.process]
      exact hinfo.process
  obtain ⟨qs, hqs, hprefix⟩ := htrip.requests_eq hwatches hR
  refine ⟨qs, ?_, ?_, fun q hq => ?_⟩
  · calc w'.requests = w'.quiet.requests := (World.requests_quiet w').symm
      _ = (c.warned catalog options w).requests ++ qs := hqs
      _ = w.requests ++ qs := by rw [requests_warned]
  · exact Nat.le_trans hprefix.length_le (by cases t <;> simp)
  · have hmem := hprefix.subset hq
    cases t with
    | none => cases hmem
    | some t =>
      obtain rfl : q = t.prepared.request := List.mem_singleton.mp hmem
      obtain ⟨w₁, hready⟩ :=
        htrip.readied (y := c.centerOf catalog ctx method target body reply options bs w) rfl
      have hprocesses : Processes (CallInfo.ofOptions (c.optionsOf options))
          (Exchange.draftOf (c.centerOf catalog ctx method target body reply options bs w).invocation
            t.prepared.url t.prepared.limit) t.prepared.request := by
        unfold Processes
        rw [← hcenter.process]
        exact hready.prepares
      refine ⟨_, ?_, hprocesses⟩
      refine hready.url_eq (hcenter.url.trans hurl) ?_
      rw [hcenter.query, hcenter.plain]
      exact hquery

/-- Without a resolver, a call whose query cannot be added to its URL fails on that, unless a guard refuses
it. -/
theorem failsUnsent_invoke (hchain : c.HasChain catalog options bs)
    (hurl : (CallInfo.ofOptions (c.optionsOf options)).url = none) {target reason : String}
    (hquery : (CallInfo.ofOptions (c.optionsOf options)).query.addTo (c.plainUrl target options) =
      .error reason)
    (ctx : CallContext) (method : String) (body : RequestBody) (reply : Option ρ)
    (hpasses : ¬ Chain.Refused c.skippers bs (c.invocationOf method target body reply options)) :
    (c.invoke catalog ctx method target body reply options).FailsUnsent R
      (.new (Fault.wrap c.settings.codes (c.settings.codes.site .queryFails) Codes.httpError
        reason)) := by
  have hunready (w : World) : ∃ w₁,
      Unready (c.centerOf catalog ctx method target body reply options bs w).context
        (c.centerOf catalog ctx method target body reply options bs w).invocation
        (c.centerOf catalog ctx method target body reply options bs w).world
        (.ok (.new (Fault.wrap c.settings.codes (c.settings.codes.site .queryFails) Codes.httpError
          reason))) w₁ ∧
      w₁.requests = w.requests := by
    have hcenter : Centered c target options
        (c.centerOf catalog ctx method target body reply options bs w).invocation := centered ..
    have hcodes := hcenter.codes
    have hrequests : (c.centerOf catalog ctx method target body reply options bs w).world.requests =
        w.requests := (Builtin.requests_enterAll ..).trans (requests_warned ..)
    rw [← hcodes, ← hrequests]
    refine Exchange.unready_of_addTo (hcenter.url.trans hurl) ?_
    rw [hcenter.query, hcenter.plain]
    exact hquery
  constructor
  case ends =>
    intro w
    obtain ⟨w₁, h, -⟩ := hunready w
    have htrip := Chain.Trip.fetched (R := R) hpasses rfl (.exit (.unready h))
    obtain ⟨w', hends, -⟩ :=
      (ends_invoke_iff hchain).mpr ⟨_, Chain.endsFrom_iff_trip.mpr ⟨_, htrip⟩, rfl⟩
    exact ⟨_, w', hends⟩
  case only =>
    rintro w ⟨o, reply'⟩ w' h
    obtain ⟨w₁, hu, hrequests⟩ := hunready w
    obtain ⟨i', hends, -⟩ := (ends_invoke_iff hchain).mp ⟨w', h, rfl⟩
    obtain ⟨t, htrip⟩ := Chain.endsFrom_iff_trip.mp hends
    obtain ⟨⟨-, f, hf, halike⟩, hsent⟩ := htrip.failsWith_of_unready hpasses rfl hu
    refine ⟨?_, f, hf, halike⟩
    rw [← hrequests, ← hsent]
    exact (World.requests_quiet w').symm

end Client

namespace Request

variable {fields : List (String × Json)} {value : Encodable} {c : Client} {r : Request}

/-- Beside an empty query, an object gives the call its fields. -/
theorem info_query (hvalue : value.toJson = .ok (.object fields))
    (hquery : (CallInfo.ofOptions (c.optionsOf r.options)).query = .empty) (codes : CodeRegistry)
    (site : CallSite) :
    CallInfo.ofOptions (c.optionsOf (r.query codes site value).options) =
      { CallInfo.ofOptions (c.optionsOf r.options) with query := queryOf fields } := by
  have hmerge : ValueMap.empty.merge (queryOf fields) = queryOf fields := by
    refine ValueMap.ext_held? fun key => ?_
    rw [ValueMap.held?_merge, ValueMap.held?_empty, Option.or_none]
  rw [query_eq hvalue, Client.optionsOf, CallInfo.ofOptions_combine, ← List.append_assoc,
    CallInfo.ofOptions_concat, Client.optionsOf, CallInfo.ofOptions_combine]
  rw [Client.optionsOf, CallInfo.ofOptions_combine] at hquery
  show { CallInfo.ofOptions (c.options ++ r.options) with
    query := (CallInfo.ofOptions (c.options ++ r.options)).query.merge (queryOf fields) } = _
  rw [hquery, hmerge]

variable {catalog : Catalog} {bs : List Builtin}

theorem hasChain_query (hvalue : value.toJson = .ok (.object fields))
    (hquery : (CallInfo.ofOptions (c.optionsOf r.options)).query = .empty)
    (hchain : c.HasChain catalog r.options bs) (codes : CodeRegistry) (site : CallSite) :
    c.HasChain catalog (r.query codes site value).options bs := by
  rw [Client.HasChain, ← hchain, Client.chainFor, Client.chainFor, info_query hvalue hquery codes site]

variable {ρ : Type} [Reply ρ]

/-- An object that is all null is as good as none. -/
theorem send_query_of_null (hvalue : value.toJson = .ok (.object fields)) (hnull : ∀ f ∈ fields, f.2 = .null)
    (hquery : (CallInfo.ofOptions (c.optionsOf r.options)).query = .empty)
    (hchain : c.HasChain catalog r.options bs) (codes : CodeRegistry) (site : CallSite)
    (ctx : CallContext)
    (reply : Option ρ) :
    (r.query codes site value).send c catalog ctx reply = r.send c catalog ctx reply := by
  have hinfo : CallInfo.ofOptions (c.optionsOf (r.query codes site value).options) =
      CallInfo.ofOptions (c.optionsOf r.options) := by
    rw [info_query hvalue hquery, queryOf_of_null hnull, ← hquery]
  have hinvoke := @Client.invoke_eq_of_info ρ _ c catalog c.options _ _ hinfo
    (Client.echoes_of_hasChain hchain) ctx r.method r.target r.body reply
  rw [query_eq hvalue] at hinvoke ⊢
  unfold send
  cases r.failure with
  | some f => rfl
  | none => exact hinvoke

/-- What becomes of a request under a query of keys without values (`keyed`), compared to the request without
it (`bare`). -/
structure Reread (R : Resumption) (c : Client) (r : Request) (bs : List Builtin) (reply : Option ρ)
    (bare keyed : Work (Except Panic CallResult × Option ρ)) : Prop where
  /-- Without it the request is for the address followed by the target. -/
  untouched : bare.RequestsAt R (CallInfo.ofOptions (c.optionsOf r.options)) (c.plainUrl r.target r.options)
  /-- Under it the request is for what reading this makes of it, with a query. -/
  reread : ∀ u, Url.parse (c.plainUrl r.target r.options) = .ok u →
    keyed.RequestsAt R (CallInfo.ofOptions (c.optionsOf r.options)) u.withMark.render
  /-- That is another URL, unless address or target has a query. -/
  changed : ∀ u : Url, '?' ∉ (c.plainUrl r.target r.options).toList →
    u.withMark.render ≠ c.plainUrl r.target r.options
  /-- What cannot be read fails the call, unless a guard refuses it. -/
  unreadable : ∀ e, Url.parse (c.plainUrl r.target r.options) = .error e →
    ¬ Chain.Refused c.skippers bs (c.invocationOf r.method r.target r.body reply r.options) →
    keyed.FailsUnsent R (.new (Fault.wrap c.settings.codes (c.settings.codes.site .queryFails)
      Codes.httpError (c.plainUrl r.target r.options ++ ": " ++ e.message)))

theorem reread_send (hvalue : value.toJson = .ok (.object fields)) (hfields : Valueless fields)
    (hlist : ∃ f ∈ fields, f.2 = .array []) (hfailure : r.failure = none)
    (hquery : (CallInfo.ofOptions (c.optionsOf r.options)).query = .empty)
    (hurl : (CallInfo.ofOptions (c.optionsOf r.options)).url = none)
    (hchain : c.HasChain catalog r.options bs) {R : Resumption}
    (hR : ∀ g w w₁, R g w w₁ → w₁.requests = w.requests) (hconnector : c.settings.connector.HandsOver)
    (hsilent : (CallInfo.ofOptions (c.optionsOf r.options)).Silent) (codes : CodeRegistry)
    (site : CallSite) (ctx : CallContext) (reply : Option ρ) :
    Reread R c r bs reply (r.send c catalog ctx reply)
      ((r.query codes site value).send c catalog ctx reply) := by
  have hinfo := info_query hvalue hquery codes site
  have hsend : (r.query codes site value).send c catalog ctx reply =
      c.invoke catalog ctx r.method r.target r.body reply (r.query codes site value).options := by
    rw [query_eq hvalue, send, hfailure]
  have hplain :
      c.plainUrl r.target (r.query codes site value).options = c.plainUrl r.target r.options := by
    rw [Client.plainUrl, hinfo, Client.plainUrl]
  have hadd := Query.addTo_of_pairs_eq_nil (isEmpty_queryOf hfields hlist) (pairs_queryOf hfields)
    (c.plainUrl r.target r.options)
  -- Under the query the call is one of the same chain and the same closures.
  have hchain' := hasChain_query hvalue hquery hchain codes site
  have hurl' : (CallInfo.ofOptions (c.optionsOf (r.query codes site value).options)).url = none := by
    rw [hinfo]
    exact hurl
  have hsilent' : (CallInfo.ofOptions (c.optionsOf (r.query codes site value).options)).Silent := by
    rw [hinfo]
    exact ⟨hsilent.resolver, hsilent.process⟩
  constructor
  case untouched =>
    rw [send, hfailure]
    refine Client.requestsAt_invoke hchain hconnector hsilent hR hurl ?_ ctx r.method r.body reply
    rw [hquery]
    rfl
  case reread =>
    intro u hparse
    have hadded : (CallInfo.ofOptions (c.optionsOf (r.query codes site value).options)).query.addTo
        (c.plainUrl r.target (r.query codes site value).options) = .ok u.withMark.render := by
      rw [hinfo, hplain, hadd, hparse]
    have hsent :=
      Client.requestsAt_invoke hchain' hconnector hsilent' hR hurl' hadded ctx r.method r.body reply
    rw [hinfo] at hsent
    rw [hsend]
    exact hsent
  case changed =>
    intro u hmark heq
    exact hmark (heq ▸ u.mark_mem_render)
  case unreadable =>
    intro e hparse hpasses
    have hadded : (CallInfo.ofOptions (c.optionsOf (r.query codes site value).options)).query.addTo
        (c.plainUrl r.target (r.query codes site value).options) =
          .error (c.plainUrl r.target r.options ++ ": " ++ e.message) := by
      rw [hinfo, hplain, hadd, hparse]
    rw [hsend]
    exact Client.failsUnsent_invoke hchain' hurl' hadded ctx r.method r.body reply hpasses

/-- Fields that are null leave a request as it is.  An empty list does not: its key is in the query, so the
URL is read and put together again though there is nothing to add.  Then a target that cannot be read fails
the call, and from any address and target without a `?` the request goes to another URL. -/
theorem send_valueless (hvalue : value.toJson = .ok (.object fields)) (hfields : Valueless fields)
    (hquery : (CallInfo.ofOptions (c.optionsOf r.options)).query = .empty)
    (hurl : (CallInfo.ofOptions (c.optionsOf r.options)).url = none)
    (hchain : c.HasChain catalog r.options bs) (codes : CodeRegistry) (site : CallSite)
    (ctx : CallContext)
    (reply : Option ρ) :
    ((∀ f ∈ fields, f.2 = .null) →
      (r.query codes site value).send c catalog ctx reply = r.send c catalog ctx reply) ∧
    ((∃ f ∈ fields, f.2 = .array []) → r.failure = none →
      c.settings.connector.HandsOver → (CallInfo.ofOptions (c.optionsOf r.options)).Silent →
      ∀ R : Resumption, (∀ g w w₁, R g w w₁ → w₁.requests = w.requests) →
        Reread R c r bs reply (r.send c catalog ctx reply)
          ((r.query codes site value).send c catalog ctx reply)) :=
  ⟨fun hnull => send_query_of_null hvalue hnull hquery hchain codes site ctx reply,
    fun hlist hfailure hconnector hsilent _ hR => reread_send hvalue hfields hlist hfailure hquery hurl hchain
      hR hconnector hsilent codes site ctx reply⟩

/-- A call that looks for no numbers: its query is an object of one empty list. -/
def noNumbers (target : String) : Work (Except Panic CallResult × Option Json) :=
  ((Request.new "GET" target).query (.new ⟨"localhost", 1, "service", .oneFile "library"⟩)
    ⟨"src/orders.rs", 8, "orders::find"⟩ (.json (.object [("ids", .array [])]))).send
      (Client.scripted .ok []) .standard (.ofToken ⟨[0]⟩) none

theorem send_valueless_noNumbers :
    (noNumbers "/v1/orders").RequestsAt Work.alone (.ofOptions []) "http://service.test/v1/orders?" ∧
      (noNumbers ":99999/").FailsUnsent Work.alone (.new
        (Fault.wrap (Client.scripted .ok []).settings.codes
          ((Client.scripted .ok []).settings.codes.site .queryFails) Codes.httpError
          "http://service.test:99999/: invalid port number")) := by
  have hvalue : (Encodable.json (.object [("ids", .array [])])).toJson =
      .ok (.object [("ids", .array [])]) := rfl
  have hfields : Valueless [("ids", .array [])] := fun f hf => .inr (by rw [List.mem_singleton.mp hf])
  have hconnector : (Client.scripted .ok []).settings.connector.HandsOver :=
    ScriptedRemote.handsOver fun _ => rfl
  have hsilent : (CallInfo.ofOptions []).Silent := ⟨fun _ h => (by cases h), fun _ h => (by cases h)⟩
  have halone (g : Guard) (w w₁ : World) (h : Work.alone g w w₁) : w₁.requests = w.requests := by
    rw [World.settle_frame h]
    rfl
  have hreread (target : String) : Reread Work.alone (Client.scripted .ok []) (Request.new "GET" target) []
      (none : Option Json) _ (noNumbers target) :=
    (send_valueless (r := Request.new "GET" target) hvalue hfields rfl rfl
      (Client.hasChain_scripted .ok [] rfl) _ _ _ _).2
      ⟨_, List.mem_singleton_self _, rfl⟩ rfl hconnector hsilent Work.alone halone
  constructor
  · obtain ⟨u, hparse, hrender⟩ : ∃ u, Url.parse "http://service.test/v1/orders" = .ok u ∧
        u.withMark.render = "http://service.test/v1/orders?" := ⟨_, rfl, by decide +kernel⟩
    have hkeyed := (hreread "/v1/orders").reread u hparse
    rw [hrender] at hkeyed
    exact hkeyed
  · have hparse : Url.parse "http://service.test:99999/" = .error .badPort := rfl
    refine (hreread ":99999/").unreadable .badPort hparse ?_
    rintro ⟨-, b, hb, -⟩
    cases hb

/-- With and without the empty list, the request goes to different URLs. -/
theorem empty_list_marks_url :
    ((noNumbers "/v1/orders").run .initial).map (fun r => r.2.requests.map (·.url)) =
        some ["http://service.test/v1/orders?"] ∧
      (((Request.new "GET" "/v1/orders").send (Client.scripted .ok []) .standard (.ofToken ⟨[0]⟩)
        (none : Option Json)).run .initial).map (fun r => r.2.requests.map (·.url)) =
        some ["http://service.test/v1/orders"] := by
  constructor
  · show (((Client.scripted .ok []).invoke .standard _ _ _ _ _ [.mergeQuery _]).run .initial).map _ = _
    rw [Client.invoke_scripted_nil _ _ _ _ _ _ rfl]
    decide +kernel
  · show (((Client.scripted .ok []).invoke .standard _ _ _ _ _ []).run .initial).map _ = _
    rw [Client.invoke_scripted_nil _ _ _ _ _ _ rfl]
    decide +kernel

end Request

end CallChain
