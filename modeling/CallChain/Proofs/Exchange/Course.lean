import CallChain.Proofs.Exchange.Fetch

/-!
# The course of a fetch

A fetch readies a request, takes the connection and sends the request.  `Exit` lists the ways in which
it can end before the connection is handed the request, with the failure or the panic of each; every
other fetch is a `Transfer`, and what becomes of it is what comes first: the answer, the limit or the
end of the context.  `ends_fetch_iff_course` says that this is all a fetch can do.
-/

set_option autoImplicit false

namespace CallChain

/-- The closures among the options of a call change the world only as the relation says. -/
structure CallInfo.Keeps (info : CallInfo) (r : World → World → Prop) : Prop where
  resolver : ∀ resolver, info.url = some resolver → ∀ w, r w (resolver w).2
  process : ∀ process, info.process = some process → ∀ q w, r w (process q w).2

namespace Exchange

open Call (Ends Runs)

variable {ρ α β : Type} {R : Resumption}

/-! ### Parts that go one way only -/

/-- The part of the exchange runs in one way only and leaves the invocation alone. -/
def Certain (R : Resumption) (s : Step ρ α) (i : Invocation ρ) (w : World)
    (o : Except Panic (Except CallFailure α)) (w₁ : World) : Prop :=
  ∀ (o' : Except Panic (Except CallFailure α)) (i' : Invocation ρ) (w' : World),
    Runs R s.run i w o' i' w' ↔ o' = o ∧ i' = i ∧ w' = w₁

namespace Certain

variable {i : Invocation ρ} {w w₁ w₂ : World} {s : Step ρ α} {k : α → Step ρ β} {a : α}

theorem pure (a : α) : Certain R (Pure.pure a : Step ρ α) i w (.ok (.ok a)) w :=
  fun _ _ _ => runs_pure_iff

theorem throw (e : CallFailure) :
    Certain R (MonadExcept.throw e : Step ρ α) i w (.ok (.error e)) w :=
  fun _ _ _ => runs_throw_iff

theorem log {ctx : CallContext} {level : Level} {message : String} {fields : LogFields} :
    Certain R (Exchange.log ctx level message fields : Step ρ Unit) i w (.ok (.ok ()))
      (w.record (.logged ⟨level, message, fields, ctx.span⟩)) :=
  fun _ _ _ => runs_log_iff

theorem bind {o : Except Panic (Except CallFailure β)} (hs : Certain R s i w (.ok (.ok a)) w₁)
    (hk : Certain R (k a) i w₁ o w₂) : Certain R (s >>= k) i w o w₂ := by
  intro o' i' w'
  simp only [runs_bind_iff, hs _ _ _]
  constructor
  · rintro (⟨b, i₁, v, ⟨hb, rfl, rfl⟩, hrest⟩ | ⟨e, -, he, -⟩ | ⟨p, -, hp, -⟩)
    · cases hb
      exact (hk o' i' w').mp hrest
    · cases he
    · cases hp
  · intro h
    exact .inl ⟨a, i, w₁, ⟨rfl, rfl, rfl⟩, (hk o' i' w').mpr h⟩

/-- A failure or a panic of the first part is one of the whole. -/
theorem bind_fails {x : Except Panic CallFailure} (hs : Certain R s i w (x.map .error) w₁) :
    Certain R (s >>= k) i w (x.map .error) w₁ := by
  intro o' i' w'
  simp only [runs_bind_iff, hs _ _ _]
  cases x with
  | error p =>
    constructor
    · rintro (⟨_, _, _, ⟨h, -, -⟩, -⟩ | ⟨_, -, h, -, -⟩ | ⟨p', rfl, h, rfl, rfl⟩)
      · cases h
      · cases h
      · cases h
        exact ⟨rfl, rfl, rfl⟩
    · rintro ⟨rfl, rfl, rfl⟩
      exact .inr (.inr ⟨p, rfl, rfl, rfl, rfl⟩)
  | ok e =>
    constructor
    · rintro (⟨_, _, _, ⟨h, -, -⟩, -⟩ | ⟨e', rfl, h, rfl, rfl⟩ | ⟨_, -, h, -, -⟩)
      · cases h
      · cases h
        exact ⟨rfl, rfl, rfl⟩
      · cases h
    · rintro ⟨rfl, rfl, rfl⟩
      exact .inr (.inl ⟨e, rfl, rfl, rfl, rfl⟩)

theorem get_bind {k : Invocation ρ → Step ρ β} {o : Except Panic (Except CallFailure β)}
    (hk : Certain R (k i) i w o w₁) : Certain R (get >>= k) i w o w₁ :=
  bind (fun _ _ _ => runs_get_iff) hk

end Certain

/-- A part of the exchange that comes to a value goes on, and one that does not is the end. -/
theorem ends_bind_cases_iff {s : Step ρ α} {k : α → Step ρ β} {i : Invocation ρ} {w : World}
    {d : Departure ρ (Except CallFailure β)} :
    Ends R (s >>= k).run i w d ↔
      (∃ a i₁ w₁, Runs R s.run i w (.ok (.ok a)) i₁ w₁ ∧ Ends R (k a).run i₁ w₁ d) ∨
        ∃ (x : Except Panic CallFailure) (i₁ : Invocation ρ) (w₁ : World),
          Runs R s.run i w (x.map .error) i₁ w₁ ∧ d = ⟨x.map .error, i₁, w₁.quiet⟩ := by
  obtain ⟨o, j, v⟩ := d
  simp only [Ends, runs_bind_iff, Departure.mk.injEq]
  constructor
  · rintro ⟨w', rfl, ⟨a, i₁, w₁, hs, hk⟩ | ⟨e, rfl, hs⟩ | ⟨p, rfl, hs⟩⟩
    · exact .inl ⟨a, i₁, w₁, hs, w', rfl, hk⟩
    · exact .inr ⟨.ok e, j, w', hs, rfl, rfl, rfl⟩
    · exact .inr ⟨.error p, j, w', hs, rfl, rfl, rfl⟩
  · rintro (⟨a, i₁, w₁, hs, w', rfl, hk⟩ | ⟨p | e, i₁, w₁, hs, rfl, rfl, rfl⟩)
    · exact ⟨w', rfl, .inl ⟨a, i₁, w₁, hs, hk⟩⟩
    · exact ⟨w₁, rfl, .inr (.inr ⟨p, rfl, hs⟩)⟩
    · exact ⟨w₁, rfl, .inr (.inl ⟨e, rfl, hs⟩)⟩

/-- Work outside the invocation, and what follows it. -/
theorem runs_lift_bind_iff {t : Attempt α} {k : α → Step ρ β} {i i' : Invocation ρ} {w w' : World}
    {o : Except Panic (Except CallFailure β)} :
    Runs R (lift t >>= k).run i w o i' w' ↔
      ∃ r w₁, Work.Ends R t.run w r w₁ ∧ match r with
        | .ok a => Runs R (k a).run i w₁ o i' w'
        | .error p => o = .error p ∧ i' = i ∧ w' = w₁ := by
  rw [Runs, work_bind, work_lift, Work.bind_bind, Work.ends_bind_iff]
  refine exists_congr fun r => exists_congr fun w₁ => and_congr_right fun _ => ?_
  cases r with
  | ok a => rfl
  | error p =>
    show Work.Ends R (.done _) w₁ _ w' ↔ _
    simp only [Work.ends_done_iff, Prod.mk.injEq, and_assoc]

/-- Work that changes the world at once is certain, and what follows it begins there. -/
theorem Certain.act_bind {f : World → World} {g : World → Except Panic α} {k : α → Step ρ β}
    {i : Invocation ρ} {w w₂ : World} {o : Except Panic (Except CallFailure β)}
    (h : match g w with
      | .ok a => Certain R (k a) i (f w) o w₂
      | .error p => o = .error p ∧ w₂ = f w) :
    Certain R (Exchange.lift (ExceptT.mk (.act f fun w => .done (g w))) >>= k) i w o w₂ := by
  intro o' i' w'
  have hends (r : Except Panic α) (w₁ : World) :
      Work.Ends R (.act f fun w => .done (g w)) w r w₁ ↔ r = g w ∧ w₁ = f w := by
    rw [Work.ends_act_iff, Work.ends_done_iff]
  rw [runs_lift_bind_iff]
  show (∃ r w₁, Work.Ends R (.act f fun w => .done (g w)) w r w₁ ∧ _) ↔ _
  simp only [hends]
  cases hg : g w with
  | ok a =>
    rw [hg] at h
    constructor
    · rintro ⟨_, _, ⟨rfl, rfl⟩, hk⟩
      exact (h o' i' w').mp hk
    · intro hk
      exact ⟨_, _, ⟨rfl, rfl⟩, (h o' i' w').mpr hk⟩
  | error p =>
    rw [hg] at h
    obtain ⟨rfl, rfl⟩ := h
    constructor
    · rintro ⟨_, _, ⟨rfl, rfl⟩, hk⟩
      exact hk
    · intro hk
      exact ⟨_, _, ⟨rfl, rfl⟩, hk⟩

/-- An action of the caller runs as it does. -/
theorem certain_ofAction {place : Place} {c : Action α} {r : Except Fault α} {i : Invocation ρ}
    {w w₁ : World}
    (h : c w = (.ok r, w₁)) :
    Certain R (ofAction place c : Step ρ (Except Fault α)) i w
      (.ok (.ok (r.mapError (Fault.pushFrame i.codes (i.codes.site place))))) w₁ := by
  refine Certain.get_bind (Certain.act_bind ?_)
  rw [h]
  cases r with
  | ok a => exact .pure _
  | error f => exact .pure _

theorem certain_ofAction_panic {place : Place} {c : Action α} {p : Panic} {i : Invocation ρ}
    {w w₁ : World}
    (h : c w = (.error p, w₁)) :
    Certain R (ofAction place c : Step ρ (Except Fault α)) i w (.error p) w₁ := by
  refine Certain.get_bind (Certain.act_bind ?_)
  rw [h]
  exact ⟨rfl, rfl⟩

theorem runs_get_bind_iff {k : Invocation ρ → Step ρ β} {i i' : Invocation ρ} {w w' : World}
    {o : Except Panic (Except CallFailure β)} :
    Runs R (get >>= k).run i w o i' w' ↔ Runs R (k i).run i w o i' w' := Iff.rfl

/-! ### The request -/

variable (ctx : CallContext) (i : Invocation ρ) (w : World)

/-- The URL of a call before its query: what the resolver says, or the target at the address. -/
def resolver : Action String :=
  i.info.url.getD fun w => (.ok (.ok (i.info.endpoint.getD i.client.address ++ i.target)), w)

/-- What the options make of a request. -/
def processor : TransportRequest → Action TransportRequest :=
  i.info.process.getD fun q w => (.ok (.ok q), w)

/-- The time the request of a call may take. -/
def limitOf : Option Duration :=
  effectiveTimeout (i.info.timeout.or i.client.timeout) (ctx.remaining w)

/-- The request that can be sent, and the world in which it is ready. -/
inductive Readied : Prepared → World → Prop where
  | intro {plain url : String} {q : TransportRequest} {w₁ w₂ : World} :
      resolver i w = (.ok (.ok plain), w₁) → i.info.query.addTo plain = .ok url →
      processor i (draftOf i url (limitOf ctx i w₁)) w₁ = (.ok (.ok q), w₂) →
      Readied ⟨i.info.endpoint.getD i.client.address, url, limitOf ctx i w₁, q⟩ w₂

/-- The ways in which no request is made, each with the panic or the failure of the call. -/
inductive Unready : Except Panic CallFailure → World → Prop where
  | unresolved {f : Fault} {w₁ : World} :
      resolver i w = (.ok (.error f), w₁) →
      Unready (.ok (.new (Fault.pushFrame i.codes (i.codes.site .resolverFails) f)))
        (w₁.record (.logged ⟨.error, "url resolver failed", [], ctx.span⟩))
  | resolverPanic {p : Panic} {w₁ : World} : resolver i w = (.error p, w₁) → Unready (.error p) w₁
  | unparsable {plain reason : String} {w₁ : World} :
      resolver i w = (.ok (.ok plain), w₁) → i.info.query.addTo plain = .error reason →
      Unready (.ok (.new (Fault.wrap i.codes (i.codes.site .queryFails) Codes.httpError reason)))
        (w₁.record (.logged ⟨.error, "invalid request url", [("url", .string plain)], ctx.span⟩))
  | unprocessed {plain url : String} {f : Fault} {w₁ w₂ : World} :
      resolver i w = (.ok (.ok plain), w₁) → i.info.query.addTo plain = .ok url →
      processor i (draftOf i url (limitOf ctx i w₁)) w₁ = (.ok (.error f), w₂) →
      Unready (.ok (.new (Fault.pushFrame i.codes (i.codes.site .processorFails) f))) w₂
  | processorPanic {plain url : String} {p : Panic} {w₁ w₂ : World} :
      resolver i w = (.ok (.ok plain), w₁) → i.info.query.addTo plain = .ok url →
      processor i (draftOf i url (limitOf ctx i w₁)) w₁ = (.error p, w₂) →
      Unready (.error p) w₂

/-- A call either makes its request or does not. -/
theorem readied_or_unready :
    (∃ p w₁, Readied ctx i w p w₁) ∨ ∃ x w₁, Unready ctx i w x w₁ := by
  rcases hresolver : resolver i w with ⟨p | f | plain, w₁⟩
  · exact .inr ⟨_, _, .resolverPanic hresolver⟩
  · exact .inr ⟨_, _, .unresolved hresolver⟩
  rcases hquery : i.info.query.addTo plain with reason | url
  · exact .inr ⟨_, _, .unparsable hresolver hquery⟩
  rcases hprocessor : processor i (draftOf i url (limitOf ctx i w₁)) w₁ with ⟨p | f | q, w₂⟩
  · exact .inr ⟨_, _, .processorPanic hresolver hquery hprocessor⟩
  · exact .inr ⟨_, _, .unprocessed hresolver hquery hprocessor⟩
  · exact .inl ⟨_, _, .intro hresolver hquery hprocessor⟩

section

variable {ctx i w} {w₁ w₂ : World}

theorem certain_withQuery {plain url : String} (h : i.info.query.addTo plain = .ok url) :
    Certain R (withQuery ctx i.info plain) i w (.ok (.ok url)) w := by
  refine Certain.get_bind ?_
  rw [h]
  exact .pure url

theorem certain_withQuery_unparsable {plain reason : String}
    (h : i.info.query.addTo plain = .error reason) :
    Certain R (withQuery ctx i.info plain) i w
      (.ok (.error (.new (Fault.wrap i.codes (i.codes.site .queryFails) Codes.httpError reason))))
      (w.record (.logged ⟨.error, "invalid request url", [("url", .string plain)], ctx.span⟩)) := by
  refine Certain.get_bind ?_
  rw [h]
  exact Certain.log.bind (.throw _)

/-- The URL of a call is what the resolver says, with the query added. -/
theorem certain_urlOf {r : Except Panic (Except Fault String)}
    {o : Except Panic (Except CallFailure String)} (hresolver : resolver i w = (r, w₁))
    (h : match r with
      | .ok (.ok plain) => Certain R (withQuery ctx i.info plain) i w₁ o w₂
      | .ok (.error f) =>
        o = .ok (.error (.new (Fault.pushFrame i.codes (i.codes.site .resolverFails) f))) ∧
          w₂ = w₁.record (.logged ⟨.error, "url resolver failed", [], ctx.span⟩)
      | .error p => o = .error p ∧ w₂ = w₁) :
    Certain R (urlOf ctx i.info (i.info.endpoint.getD i.client.address)) i w o w₂ := by
  refine Certain.get_bind ?_
  dsimp only
  unfold resolver at hresolver
  cases hurl : i.info.url with
  | none =>
    rw [hurl] at hresolver
    cases hresolver
    exact h
  | some c =>
    rw [hurl] at hresolver
    obtain p | f | plain := r
    · obtain ⟨rfl, rfl⟩ := h
      exact Certain.bind_fails (x := .error p) (certain_ofAction_panic hresolver)
    · obtain ⟨rfl, rfl⟩ := h
      refine (certain_ofAction hresolver).bind (Certain.log.bind ?_)
      exact Certain.bind_fails (x := .ok _) (.throw _)
    · exact (certain_ofAction hresolver).bind h

/-- Once its URL is known, a request is what the options make of its draft. -/
theorem certain_prepare {url : String} {r : Except Panic (Except Fault TransportRequest)}
    (hurl : Certain R (urlOf ctx i.info (i.info.endpoint.getD i.client.address)) i w
      (.ok (.ok url)) w₁)
    (hprocessor : processor i (draftOf i url (limitOf ctx i w₁)) w₁ = (r, w₂)) :
    Certain R (prepare ctx : Step ρ Prepared) i w
      (match r with
        | .ok (.ok q) =>
          .ok (.ok ⟨i.info.endpoint.getD i.client.address, url, limitOf ctx i w₁, q⟩)
        | .ok (.error f) =>
          .ok (.error (.new (Fault.pushFrame i.codes (i.codes.site .processorFails) f)))
        | .error p => .error p) w₂ := by
  refine Certain.get_bind (hurl.bind (Certain.act_bind (g := .ok) ?_))
  dsimp only
  unfold processor at hprocessor
  cases hprocess : i.info.process with
  | none =>
    rw [hprocess] at hprocessor
    cases hprocessor
    exact .pure _
  | some process =>
    rw [hprocess] at hprocessor
    obtain p | f | q := r
    · exact Certain.bind_fails (x := .error p) (certain_ofAction_panic hprocessor)
    · exact (certain_ofAction hprocessor).bind (.throw _)
    · exact (certain_ofAction hprocessor).bind (.pure _)

theorem certain_prepare_of_readied {p : Prepared} (h : Readied ctx i w p w₁) :
    Certain R (prepare ctx : Step ρ Prepared) i w (.ok (.ok p)) w₁ := by
  obtain ⟨hresolver, hquery, hprocessor⟩ := h
  exact certain_prepare (certain_urlOf hresolver (certain_withQuery hquery)) hprocessor

theorem certain_prepare_of_unready {x : Except Panic CallFailure} (h : Unready ctx i w x w₁) :
    Certain R (prepare ctx : Step ρ Prepared) i w (x.map .error) w₁ := by
  cases h with
  | unresolved hresolver =>
    exact Certain.get_bind
      (Certain.bind_fails (x := .ok _) (certain_urlOf hresolver ⟨rfl, rfl⟩))
  | resolverPanic hresolver =>
    exact Certain.get_bind
      (Certain.bind_fails (x := .error _) (certain_urlOf hresolver ⟨rfl, rfl⟩))
  | unparsable hresolver hquery =>
    exact Certain.get_bind
      (Certain.bind_fails (x := .ok _) (certain_urlOf hresolver (certain_withQuery_unparsable hquery)))
  | unprocessed hresolver hquery hprocessor =>
    exact certain_prepare (certain_urlOf hresolver (certain_withQuery hquery)) hprocessor
  | processorPanic hresolver hquery hprocessor =>
    exact certain_prepare (certain_urlOf hresolver (certain_withQuery hquery)) hprocessor

end

/-! ### The connection and the answer -/

/-- The race of sending a request against the context: nothing if the context was done before, and
nothing inside if the limit was there before. -/
abbrev Race := Option (Except Panic (Option (Except TransportError TransportResponse)))

/-- A request that was handed to a connection. -/
structure Transfer where
  prepared : Prepared
  connection : ConnectionId
  race : Race

/-- The response to a prepared request, as the caller sees it. -/
def Prepared.responseOf (p : Prepared) (r : TransportResponse) : RawResponse :=
  { RawResponse.ofResponse r with
    requestUrl := p.url, requestAddr := p.address, requestHeaders := p.request.headers }

/-- Sending a request within its limit, as long as the context is not done. -/
def sending (ctx : CallContext) (k : Connector) (c : ConnectionId) (p : Prepared) (place : Nat) :
    Work Race :=
  (Attempt.within p.limit (k.send c p.request)).run.interruptedBy (.since place ctx.doneGuard)

namespace Transfer

/-- The response that was received: before the limit, and before the context was done. -/
def received? (t : Transfer) : Option RawResponse :=
  match t.race with
  | some (.ok (some (.ok r))) => some (t.prepared.responseOf r)
  | _ => none

/-- The failure of a request that got no response. -/
def failure (codes : CodeRegistry) (e : TransportError) : CallFailure :=
  .new (Fault.wrapCause codes (codes.site .sendFails) Codes.httpError (.other e.message))

/-- What becomes of a fetch whose request was handed over. -/
def outcome (codes : CodeRegistry) (reason : String) (t : Transfer) :
    Except Panic (Except CallFailure RawResponse) :=
  match t.race with
  | none => .ok (.error (failure codes (.cancelled reason)))
  | some (.error p) => .error p
  | some (.ok none) => .ok (.error (failure codes (.timeout (t.prepared.limit.getD .zero))))
  | some (.ok (some (.error e))) => .ok (.error (failure codes e))
  | some (.ok (some (.ok r))) => .ok (.ok (t.prepared.responseOf r))

/-- A fetch that does not panic has a response exactly if one was received. -/
theorem carried?_outcome (codes : CodeRegistry) (reason : String) (t : Transfer) :
    carried? (t.outcome codes reason) = t.received? := by
  unfold outcome received?
  rcases t.race with _ | _ | _ | _ | r <;> rfl

end Transfer

/-- The race of taking the connection against the context. -/
def taking (ctx : CallContext) (i : Invocation ρ) : Attempt (Option (Except Fault ConnectionId)) :=
  Attempt.unlessBefore ctx.doneGuard (i.client.toDialer.get ctx.span)

/-- The ways in which a fetch ends before the connection is handed a request. -/
inductive Exit (R : Resumption) (ctx : CallContext) (i : Invocation ρ) (w : World) :
    Except Panic CallFailure → World → Prop where
  /-- There was no request. -/
  | unready {x : Except Panic CallFailure} {w₁ : World} : Unready ctx i w x w₁ → Exit R ctx i w x w₁
  /-- The end of the context was there before a connection was, or before the call began. -/
  | finished {p : Prepared} {w₁ w₂ : World} :
      Readied ctx i w p w₁ → Work.Ends R (taking ctx i).run w₁ (.ok none) w₂ →
      Exit R ctx i w
        (.ok (.new (Fault.wrap i.codes (i.codes.site .connectionLate) Codes.httpError
          (ctx.reason w₂)))) w₂
  /-- The dial failed. -/
  | undialed {p : Prepared} {f : Fault} {w₁ w₂ : World} :
      Readied ctx i w p w₁ → Work.Ends R (taking ctx i).run w₁ (.ok (some (.error f))) w₂ →
      Exit R ctx i w (.ok (.new f)) w₂
  | dialPanic {p : Prepared} {q : Panic} {w₁ w₂ : World} :
      Readied ctx i w p w₁ → Work.Ends R (taking ctx i).run w₁ (.error q) w₂ →
      Exit R ctx i w (.error q) w₂
  /-- The end of the context was there when the connection was. -/
  | overtaken {p : Prepared} {c : ConnectionId} {w₁ w₂ : World} :
      Readied ctx i w p w₁ → Work.Ends R (taking ctx i).run w₁ (.ok (some (.ok c))) w₂ →
      ctx.isSignalled w₂ = true →
      Exit R ctx i w (.ok (Transfer.failure i.codes (.cancelled (ctx.reason w₂)))) w₂.takePlace

/-- What a fetch can do: leave by an exit, or hand over its request. -/
inductive Course (R : Resumption) (ctx : CallContext) (i : Invocation ρ) (w : World) :
    Option Transfer → Departure ρ CallResult → Prop where
  | exit {x : Except Panic CallFailure} {w' : World} :
      Exit R ctx i w x w' → Course R ctx i w none ⟨x.map .error, i, w'.quiet⟩
  | sent {p : Prepared} {c : ConnectionId} {r : Race} {w₁ w₂ w₃ : World} :
      Readied ctx i w p w₁ → Work.Ends R (taking ctx i).run w₁ (.ok (some (.ok c))) w₂ →
      ctx.isSignalled w₂ = false →
      Work.Ends R (sending ctx i.client.connector c p w₂.nextPlace) w₂.takePlace r w₃ →
      Course R ctx i w (some ⟨p, c, r⟩)
        ⟨Transfer.outcome i.codes (ctx.reason w₃) ⟨p, c, r⟩, i, w₃.quiet⟩

section

variable {ctx i w} {w' : World} {i' : Invocation ρ}

/-- What a fetch makes of the race for the connection. -/
theorem runs_connect_iff {url : String} {o : Except Panic (Except CallFailure ConnectionId)} :
    Runs R (connect ctx url).run i w o i' w' ↔
      ∃ r w₁, Work.Ends R (taking ctx i).run w r w₁ ∧ match r with
        | .ok (some (.ok c)) => o = .ok (.ok c) ∧ i' = i ∧ w' = w₁
        | .ok (some (.error f)) => o = .ok (.error (.new f)) ∧ i' = i ∧
            w' = w₁.record (.logged ⟨.error, "get client connection failed", [], ctx.span⟩)
        | .ok none =>
            o = .ok (.error (.new (Fault.wrap i.codes (i.codes.site .connectionLate) Codes.httpError
              (ctx.reason w₁)))) ∧
            i' = i ∧ w' = w₁.record (.logged ⟨.error,
              "call finished before the connection was ready", [("url", .string url)], ctx.span⟩)
        | .error p => o = .error p ∧ i' = i ∧ w' = w₁ := by
  rw [connect, runs_get_bind_iff, runs_lift_bind_iff]
  refine exists_congr fun r => exists_congr fun w₁ => and_congr_right fun _ => ?_
  obtain p | _ | f | c := r
  · rfl
  · exact (Certain.act_bind (g := .ok) (Certain.log.bind (.throw _))) o i' w'
  · exact (Certain.log.bind (.throw _)) o i' w'
  · exact Certain.pure c o i' w'

/-- A race either is over before it begins or is run. -/
theorem ends_unlessBefore_iff {t : Attempt α} {r : Except Panic (Option α)} :
    Work.Ends R (Attempt.unlessBefore ctx.doneGuard t).run w r w' ↔
      (ctx.isSignalled w = true ∧ r = .ok none ∧ w' = w.takePlace) ∨
        (ctx.isSignalled w = false ∧ ∃ x,
          Work.Ends R (t.run.interruptedBy (.since w.nextPlace ctx.doneGuard)) w.takePlace x w' ∧
            r = Attempt.outcome x) := by
  have htree : (Attempt.unlessBefore ctx.doneGuard t).run =
      (Work.unlessBefore ctx.doneGuard t.run).bind fun x => .done (Attempt.outcome x) := rfl
  rw [htree, Work.unlessBefore, Work.bind, Work.ends_act_iff, ← CallContext.isSignalled]
  cases ctx.isSignalled w with
  | true =>
    simp only [if_true, Work.bind, Work.ends_done_iff, true_and, reduceCtorEq, false_and, or_false]
    rfl
  | false =>
    simp only [Bool.false_eq_true, if_false, Work.ends_bind_iff, Work.ends_done_iff, false_and,
      true_and, false_or]
    constructor
    · rintro ⟨x, w₁, h, rfl, rfl⟩
      exact ⟨x, h, rfl⟩
    · rintro ⟨x, h, rfl⟩
      exact ⟨x, w', h, rfl, rfl⟩

theorem ends_sendUnlessDone_iff {k : Connector} {c : ConnectionId} {limit : Option Duration}
    {q : TransportRequest} {r : Except Panic (Except TransportError TransportResponse)} :
    Work.Ends R (sendUnlessDone ctx k c limit q).run w r w' ↔
      ∃ x, Work.Ends R
          (Attempt.unlessBefore ctx.doneGuard (Attempt.within limit (k.send c q))).run w x w' ∧
        r = match x with
          | .error p => .error p
          | .ok none => .ok (.error (.cancelled (ctx.reason w')))
          | .ok (some none) => .ok (.error (.timeout (limit.getD .zero)))
          | .ok (some (some answer)) => .ok answer := by
  have htree : (sendUnlessDone ctx k c limit q).run =
      (Attempt.unlessBefore ctx.doneGuard (Attempt.within limit (k.send c q))).run.bind fun x =>
        match x with
        | .error p => .done (.error p)
        | .ok none => .act id fun w => .done (.ok (.error (.cancelled (ctx.reason w))))
        | .ok (some none) => .done (.ok (.error (.timeout (limit.getD .zero))))
        | .ok (some (some answer)) => .done (.ok answer) := by
    show Work.bind _ _ = _
    congr 1
    funext x
    obtain _ | _ | _ | _ := x <;> rfl
  rw [htree, Work.ends_bind_iff]
  constructor
  · rintro ⟨p | _ | _ | answer, w₁, hx, hr⟩
    · obtain ⟨rfl, rfl⟩ := Work.ends_done_iff.mp hr
      exact ⟨_, hx, rfl⟩
    · cases hr with
      | act hr =>
        obtain ⟨rfl, rfl⟩ := Work.ends_done_iff.mp hr
        exact ⟨_, hx, rfl⟩
    · obtain ⟨rfl, rfl⟩ := Work.ends_done_iff.mp hr
      exact ⟨_, hx, rfl⟩
    · obtain ⟨rfl, rfl⟩ := Work.ends_done_iff.mp hr
      exact ⟨_, hx, rfl⟩
  · rintro ⟨p | _ | _ | answer, hx, rfl⟩
    · exact ⟨_, _, hx, .done _ _⟩
    · exact ⟨_, _, hx, .act (.done _ _)⟩
    · exact ⟨_, _, hx, .done _ _⟩
    · exact ⟨_, _, hx, .done _ _⟩

theorem ends_send_iff_answer {c : ConnectionId} {p : Prepared} {d : Departure ρ CallResult} :
    Ends R (send ctx c p).run i w d ↔
      ∃ r w₁, Work.Ends R (sendUnlessDone ctx i.client.connector c p.limit p.request).run w r w₁ ∧
        d = ⟨match r with
          | .error q => .error q
          | .ok (.error e) => .ok (.error (Transfer.failure i.codes e))
          | .ok (.ok response) => .ok (.ok (p.responseOf response)), i, w₁.quiet⟩ := by
  obtain ⟨o, j, v⟩ := d
  simp only [Ends, send, runs_get_bind_iff, runs_lift_bind_iff, Departure.mk.injEq]
  constructor
  · rintro ⟨w', rfl, p | e | response, w₁, hr, hk⟩
    · obtain ⟨rfl, rfl, rfl⟩ := hk
      exact ⟨_, _, hr, rfl, rfl, rfl⟩
    · obtain ⟨rfl, rfl, rfl⟩ := (Certain.log.bind (.throw _) o j w').mp hk
      exact ⟨_, _, hr, rfl, rfl, World.quiet_record_logged _ _⟩
    · obtain ⟨rfl, rfl, rfl⟩ := (Certain.pure _ o j w').mp hk
      exact ⟨_, _, hr, rfl, rfl, rfl⟩
  · rintro ⟨p | e | response, w₁, hr, rfl, rfl, rfl⟩
    · exact ⟨w₁, rfl, _, w₁, hr, rfl, rfl, rfl⟩
    · exact ⟨_, World.quiet_record_logged _ _, _, w₁, hr,
        (Certain.log.bind (.throw _) _ _ _).mpr ⟨rfl, rfl, rfl⟩⟩
    · exact ⟨w₁, rfl, _, w₁, hr, (Certain.pure _ _ _ _).mpr ⟨rfl, rfl, rfl⟩⟩

/-- What a fetch makes of the race for the answer. -/
theorem ends_send_iff {c : ConnectionId} {p : Prepared} {d : Departure ρ CallResult} :
    Ends R (send ctx c p).run i w d ↔
      (ctx.isSignalled w = true ∧
        d = ⟨.ok (.error (Transfer.failure i.codes (.cancelled (ctx.reason w)))), i,
          w.takePlace.quiet⟩) ∨
      (ctx.isSignalled w = false ∧ ∃ r w₁,
        Work.Ends R (sending ctx i.client.connector c p w.nextPlace) w.takePlace r w₁ ∧
          d = ⟨Transfer.outcome i.codes (ctx.reason w₁) ⟨p, c, r⟩, i, w₁.quiet⟩) := by
  rw [ends_send_iff_answer]
  simp only [ends_sendUnlessDone_iff, ends_unlessBefore_iff]
  constructor
  · rintro ⟨_, w₁, ⟨x, ⟨hdone, rfl, rfl⟩ | ⟨hdone, x, hx, rfl⟩, rfl⟩, rfl⟩
    · exact .inl ⟨hdone, rfl⟩
    · refine .inr ⟨hdone, x, w₁, hx, ?_⟩
      obtain _ | _ | _ | _ | _ := x <;> rfl
  · rintro (⟨hdone, rfl⟩ | ⟨hdone, x, w₁, hx, rfl⟩)
    · exact ⟨_, _, ⟨_, .inl ⟨hdone, rfl, rfl⟩, rfl⟩, rfl⟩
    · refine ⟨_, _, ⟨_, .inr ⟨hdone, x, hx, rfl⟩, rfl⟩, ?_⟩
      obtain _ | _ | _ | _ | _ := x <;> rfl

/-- A fetch that hands over no request comes back without a response. -/
theorem Exit.carried?_eq {x : Except Panic CallFailure} (h : Exit R ctx i w x w') :
    carried? (x.map .error) = none := by
  cases h with
  | unready hunready => cases hunready <;> rfl
  | finished | undialed | dialPanic | overtaken => rfl

/-- A fetch comes back with the response it received. -/
theorem Course.carried?_eq {t : Option Transfer} {d : Departure ρ CallResult}
    (h : Course R ctx i w t d) : carried? d.outcome = t.bind Transfer.received? := by
  cases h with
  | exit hexit => exact hexit.carried?_eq
  | sent => exact Transfer.carried?_outcome _ _ _

theorem Course.invocation_eq {t : Option Transfer} {d : Departure ρ CallResult}
    (h : Course R ctx i w t d) : d.invocation = i := by
  cases h with
  | exit | sent => rfl

/-- A fetch can take its courses, and no others. -/
theorem ends_fetch_iff_course {d : Departure ρ CallResult} :
    Ends R (fetch ctx).run i w d ↔ ∃ t, Course R ctx i w t d := by
  constructor
  · intro h
    rcases readied_or_unready ctx i w with ⟨p, w₁, hready⟩ | ⟨x, w₁, hunready⟩
    · rw [fetch, ends_certain_bind_iff (certain_prepare_of_readied hready), ends_bind_cases_iff] at h
      rcases h with ⟨c, i₁, w₂, hconnect, hsend⟩ | ⟨x, i₁, w₂, hconnect, rfl⟩
      · obtain ⟨_ | _ | _ | c', v, htaking, hc⟩ := runs_connect_iff.mp hconnect
        · cases hc.1
        · cases hc.1
        · cases hc.1
        · obtain ⟨hc, rfl, rfl⟩ := hc
          cases hc
          -- The end of the context may come between the two races.
          rcases ends_send_iff.mp hsend with ⟨hdone, rfl⟩ | ⟨hdone, r, w₃, hsending, rfl⟩
          · exact ⟨none, .exit (.overtaken hready htaking hdone)⟩
          · exact ⟨_, .sent hready htaking hdone hsending⟩
      · -- The same panic or failure, as an outcome of another type.
        have hx {y : Except Panic CallFailure}
            (h : x.map .error = (y.map .error : Except Panic (Except CallFailure ConnectionId))) :
            x = y := by
          cases x <;> cases y <;> cases h <;> rfl
        obtain ⟨q | _ | f | c, v, htaking, hr⟩ := runs_connect_iff.mp hconnect
        · obtain ⟨hr, rfl, rfl⟩ := hr
          obtain rfl := hx (y := .error q) hr
          exact ⟨none, .exit (.dialPanic hready htaking)⟩
        · obtain ⟨hr, rfl, rfl⟩ := hr
          obtain rfl := hx (y := .ok _) hr
          rw [World.quiet_record_logged]
          exact ⟨none, .exit (.finished hready htaking)⟩
        · obtain ⟨hr, rfl, rfl⟩ := hr
          obtain rfl := hx (y := .ok _) hr
          rw [World.quiet_record_logged]
          exact ⟨none, .exit (.undialed hready htaking)⟩
        · obtain ⟨hr, -, -⟩ := hr
          cases x <;> cases hr
    · have hfetch : Certain R (fetch ctx : Step ρ RawResponse) i w (x.map .error) w₁ :=
        Certain.bind_fails (certain_prepare_of_unready hunready)
      exact ⟨none, (Call.ends_of_runs hfetch).mp h ▸ .exit (.unready hunready)⟩
  · rintro ⟨t, h⟩
    cases h with
    | exit hexit =>
      cases hexit with
      | unready hunready =>
        have hfetch := Certain.bind_fails (k := fun p => connect ctx p.url >>= fun c => send ctx c p)
          (certain_prepare_of_unready (R := R) hunready)
        exact (Call.ends_of_runs hfetch).mpr rfl
      | finished hready htaking =>
        rw [fetch, ends_certain_bind_iff (certain_prepare_of_readied hready), ends_bind_cases_iff]
        refine .inr ⟨.ok _, i, _, runs_connect_iff.mpr ⟨_, _, htaking, rfl, rfl, rfl⟩, ?_⟩
        rw [World.quiet_record_logged]
      | undialed hready htaking =>
        rw [fetch, ends_certain_bind_iff (certain_prepare_of_readied hready), ends_bind_cases_iff]
        refine .inr ⟨.ok _, i, _, runs_connect_iff.mpr ⟨_, _, htaking, rfl, rfl, rfl⟩, ?_⟩
        rw [World.quiet_record_logged]
      | dialPanic hready htaking =>
        rw [fetch, ends_certain_bind_iff (certain_prepare_of_readied hready), ends_bind_cases_iff]
        exact .inr ⟨.error _, i, _, runs_connect_iff.mpr ⟨_, _, htaking, rfl, rfl, rfl⟩, rfl⟩
      | overtaken hready htaking hdone =>
        rw [fetch, ends_certain_bind_iff (certain_prepare_of_readied hready), ends_bind_cases_iff]
        refine .inl ⟨_, _, _, runs_connect_iff.mpr ⟨_, _, htaking, rfl, rfl, rfl⟩, ?_⟩
        exact ends_send_iff.mpr (.inl ⟨hdone, rfl⟩)
    | sent hready htaking hdone hsending =>
      rw [fetch, ends_certain_bind_iff (certain_prepare_of_readied hready), ends_bind_cases_iff]
      refine .inl ⟨_, _, _, runs_connect_iff.mpr ⟨_, _, htaking, rfl, rfl, rfl⟩, ?_⟩
      exact ends_send_iff.mpr (.inr ⟨hdone, _, _, hsending, rfl⟩)

end

/-! ### What is handed over -/

/-- A part that goes one way only does not go another. -/
theorem Certain.unique {s : Step ρ α} {i : Invocation ρ} {w w₁ w₂ : World}
    {o o' : Except Panic (Except CallFailure α)} (h : Certain R s i w o w₁)
    (h' : Certain R s i w o' w₂) : o = o' :=
  ((h' o i w₁).mp ((h o i w₁).mpr ⟨rfl, rfl, rfl⟩)).1

section

variable {ctx : CallContext} {i : Invocation ρ} {w w₁ w' : World} {p : Prepared}

theorem not_readied_of_unready {x : Except Panic CallFailure} (h : Unready ctx i w x w₁) :
    ¬ Readied ctx i w p w' := by
  intro hready
  have hsame := (certain_prepare_of_unready (R := Work.alone) h).unique
    (certain_prepare_of_readied hready)
  cases x <;> cases hsame

theorem Readied.unique {p' : Prepared} {v : World} (h : Readied ctx i w p w₁)
    (h' : Readied ctx i w p' v) : v = w₁ := by
  have hsame := (certain_prepare_of_readied (R := Work.alone) h _ i v).mp
    ((certain_prepare_of_readied h' _ i v).mpr ⟨rfl, rfl, rfl⟩)
  exact hsame.2.2

/-- The race for the connection is over before it begins if the end of the context is there. -/
theorem eq_none_of_signalled (hsignalled : ctx.isSignalled w = true)
    {r : Except Panic (Option (Except Fault ConnectionId))}
    (h : Work.Ends R (taking ctx i).run w r w') : r = .ok none := by
  rcases ends_unlessBefore_iff.mp h with ⟨-, hr, -⟩ | ⟨hnot, -⟩
  · exact hr
  · rw [hsignalled] at hnot
    cases hnot

/-- Without a request, nothing is handed over. -/
theorem Course.eq_none_of_unready {t : Option Transfer} {d : Departure ρ CallResult}
    (h : Course R ctx i w t d) {x : Except Panic CallFailure} {v : World}
    (hunready : Unready ctx i w x v) : t = none := by
  cases h with
  | exit => rfl
  | sent hready => exact absurd hready (not_readied_of_unready hunready)

/-- Nothing is handed over if the end of the context is there with every connection for the request. -/
theorem Course.eq_none {t : Option Transfer} {d : Departure ρ CallResult} (h : Course R ctx i w t d)
    {v : World} (hready : Readied ctx i w p v)
    (hstop : ∀ c v', Work.Ends R (taking ctx i).run v (.ok (some (.ok c))) v' →
      ctx.isSignalled v' = true) : t = none := by
  cases h with
  | exit => rfl
  | sent hready' htaking hgoing =>
    rw [← hready.unique hready'] at hstop
    rw [hstop _ _ htaking] at hgoing
    cases hgoing

section

variable {r : World → World → Prop}

theorem keeps_resolver {o : Except Panic (Except Fault String)} (hrefl : ∀ v, r v v)
    (hkeep : i.info.Keeps r) (h : resolver i w = (o, w₁)) : r w w₁ := by
  have hw₁ : r w (resolver i w).2 := by
    unfold resolver
    cases hurl : i.info.url with
    | none => exact hrefl w
    | some a => exact hkeep.resolver a hurl w
  rwa [h] at hw₁

theorem keeps_processor {q : TransportRequest} {o : Except Panic (Except Fault TransportRequest)}
    (hrefl : ∀ v, r v v) (hkeep : i.info.Keeps r) (h : processor i q w = (o, w₁)) : r w w₁ := by
  have hw₁ : r w (processor i q w).2 := by
    unfold processor
    cases hprocess : i.info.process with
    | none => exact hrefl w
    | some a => exact hkeep.process a hprocess q w
  rwa [h] at hw₁

/-- A request is readied with what the closures keep. -/
theorem Readied.keeps (hrefl : ∀ v, r v v) (htrans : ∀ u v v', r u v → r v v' → r u v')
    (hkeep : i.info.Keeps r) (h : Readied ctx i w p w₁) : r w w₁ := by
  obtain ⟨hresolver, -, hprocessor⟩ := h
  exact htrans _ _ _ (keeps_resolver hrefl hkeep hresolver)
    (keeps_processor hrefl hkeep hprocessor)

/-- Without a request, too, but for what is logged. -/
theorem Unready.keeps (hrefl : ∀ v, r v v) (htrans : ∀ u v v', r u v → r v v' → r u v')
    (hlogged : ∀ v x, r v (v.record (.logged x))) (hkeep : i.info.Keeps r)
    {x : Except Panic CallFailure} (h : Unready ctx i w x w₁) : r w w₁ := by
  cases h with
  | unresolved hresolver | unparsable hresolver =>
    exact htrans _ _ _ (keeps_resolver hrefl hkeep hresolver) (hlogged _ _)
  | resolverPanic hresolver => exact keeps_resolver hrefl hkeep hresolver
  | unprocessed hresolver _ hprocessor | processorPanic hresolver _ hprocessor =>
    exact htrans _ _ _ (keeps_resolver hrefl hkeep hresolver)
      (keeps_processor hrefl hkeep hprocessor)

end

theorem Readied.isSignalled (h : Readied ctx i w p w₁)
    (hkeep : i.info.Keeps fun v v' => ctx.isSignalled v = true → ctx.isSignalled v' = true)
    (hdone : ctx.isSignalled w = true) : ctx.isSignalled w₁ = true :=
  h.keeps (fun _ hv => hv) (fun _ _ _ huv hv hu => hv (huv hu)) hkeep hdone

variable (hw : Watches World.requests (fun q => [q]) i)

include hw

theorem keeps_requests : i.info.Keeps fun v v' => v'.requests = v.requests :=
  ⟨hw.resolver, hw.process⟩

theorem Readied.requests_eq (h : Readied ctx i w p w₁) : w₁.requests = w.requests :=
  h.keeps (r := fun v v' => v'.requests = v.requests) (fun _ => rfl)
    (fun _ _ _ huv hv => hv.trans huv) (keeps_requests hw)

theorem Unready.requests_eq {x : Except Panic CallFailure} (h : Unready ctx i w x w₁) :
    w₁.requests = w.requests :=
  h.keeps (r := fun v v' => v'.requests = v.requests) (fun _ => rfl)
    (fun _ _ _ huv hv => hv.trans huv) (fun v _ => World.requests_record (fun _ h => by cases h) v)
    (keeps_requests hw)

variable (hR : ∀ g w w₁, R g w w₁ → w₁.requests = w.requests)

include hR

/-- Taking the connection hands over nothing, even if it is given up. -/
theorem requests_taking {r : Except Panic (Option (Except Fault ConnectionId))}
    (h : Work.Ends R (taking ctx i).run w r w') : w'.requests = w.requests := by
  rcases ends_unlessBefore_iff.mp h with ⟨-, -, rfl⟩ | ⟨-, x, hx, -⟩
  · rfl
  · obtain ⟨qs, hqs, ys, a, hnil, -⟩ :=
      Work.Traces.of_ends hR hx (traces_get hw ctx.span).interruptedBy_beginning
    obtain ⟨rfl, -⟩ := List.append_eq_nil_iff.mp hnil
    exact hqs.trans (List.append_nil _)

/-- Sending hands over its request once at most. -/
theorem requests_sending {c : ConnectionId} {place : Nat} {r : Race}
    (h : Work.Ends R (sending ctx i.client.connector c p place) w r w') :
    ∃ qs, w'.requests = w.requests ++ qs ∧ qs <+: [p.request] := by
  have hwithin : (Attempt.within p.limit (i.client.connector.send c p.request)).run.Traces
      World.requests fun qs _ => qs <+: [p.request] := by
    unfold Attempt.within
    -- A request that is given up at its limit may have been handed over or not.
    cases p.limit with
    | none =>
      refine (hw.send c p.request).bind fun qs r hqs => ?_
      subst hqs
      cases r <;> exact List.prefix_rfl
    | some l =>
      refine Work.Traces.bind (Work.Traces.unseen (fun _ => rfl) fun _ =>
        (hw.send c p.request).limitedTo_beginning) fun qs r hqs => ?_
      obtain ⟨ys, -, hqs⟩ := hqs
      show qs ++ [] <+: _
      rw [List.append_nil]
      exact ⟨ys, hqs⟩
  obtain ⟨qs, hqs, ys, r, hprefix⟩ := Work.Traces.of_ends hR h hwithin.interruptedBy_beginning
  exact ⟨qs, hqs, (List.prefix_append qs ys).trans hprefix⟩

/-- A fetch hands over its request once at most, and nothing unless it comes to a transfer. -/
theorem Course.requests_eq {t : Option Transfer} {d : Departure ρ CallResult}
    (h : Course R ctx i w t d) :
    ∃ qs, d.world.requests = w.requests ++ qs ∧
      qs <+: (t.map fun t => t.prepared.request).toList := by
  have hnone {v : World} (hv : v.requests = w.requests) :
      ∃ qs, v.quiet.requests = w.requests ++ qs ∧ qs <+: [] := by
    refine ⟨[], ?_, List.prefix_rfl⟩
    rw [World.requests_quiet, hv, List.append_nil]
  cases h with
  | exit hexit =>
    cases hexit with
    | unready hunready => exact hnone (hunready.requests_eq hw)
    | finished hready htaking | undialed hready htaking | dialPanic hready htaking
      | overtaken hready htaking =>
      exact hnone ((requests_taking hw hR htaking).trans (hready.requests_eq hw))
  | sent hready htaking _ hsending =>
    obtain ⟨qs, hqs, hprefix⟩ := requests_sending hw hR hsending
    refine ⟨qs, ?_, hprefix⟩
    have hbefore := (requests_taking hw hR htaking).trans (hready.requests_eq hw)
    exact (World.requests_quiet _).trans (hqs.trans (congrArg (· ++ qs) hbefore))

end

end Exchange

end CallChain
