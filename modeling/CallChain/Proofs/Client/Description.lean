import CallChain.Proofs.Client.Invoke
import CallChain.Proofs.Exchange.Outcome

/-!
# What a response tells of the request it answers

A response carries the URL and the headers of its request.  The headers are read off the request as it
is handed over, the URL before the request processor has run.  So the headers are always those that were
sent, and the URL is that of the draft the processor was given: it is the URL that was sent exactly when
the processor left the URL alone.
-/

set_option autoImplicit false

namespace CallChain

open Exchange (Describes Processes Watches draftOf)

/-- A connector whose dials hand over no request and whose sends hand over the one they are given. -/
structure Connector.HandsOver (k : Connector) : Prop where
  connect : ∀ address tls, (k.connect address tls).run.Traces World.requests fun qs _ => qs = []
  send : ∀ c q, (k.send c q).run.Traces World.requests fun qs _ => qs = [q]

/-- The closures among the options of a call hand over no request themselves. -/
structure CallInfo.Silent (info : CallInfo) : Prop where
  resolver : ∀ resolver, info.url = some resolver → Action.Silent World.requests resolver
  process : ∀ process, info.process = some process → ∀ q, Action.Silent World.requests (process q)

theorem watches_requests {ρ : Type} {i : Invocation ρ} (hconnector : i.client.connector.HandsOver)
    (hinfo : i.info.Silent) : Watches World.requests (fun q => [q]) i where
  requests _ _ h := h
  connect := hconnector.connect
  send := hconnector.send
  resolver := hinfo.resolver
  process := hinfo.process

theorem ScriptedRemote.handsOver_pause (d : Option Duration) :
    (pause d).Traces World.requests fun qs _ => qs = [] := by
  cases d with
  | none => rfl
  | some d => exact Work.Traces.unseen (fun _ => rfl) fun w => ⟨fun _ => rfl, rfl⟩

/-- A scripted remote side whose handler hands nothing on. -/
theorem ScriptedRemote.handsOver {r : ScriptedRemote}
    (h : ∀ q, (r.handler q).run.Traces World.requests fun qs _ => qs = []) :
    r.connector.HandsOver := by
  refine ⟨fun address tls => ?_, fun c q => ?_⟩
  · refine Work.Traces.lift_bind (P := fun qs _ => qs = [])
      (Work.Traces.unseen (World.requests_record fun _ h => by cases h) fun _ => rfl) ?_
    rintro _ _ rfl
    refine Work.Traces.lift_bind (handsOver_pause r.connectDelay) ?_
    rintro _ _ rfl
    cases r.failure with
    | some reason => rfl
    | none => exact Work.Traces.unseen (fun _ => rfl) fun _ => rfl
  · refine Work.Traces.lift_bind (P := fun qs _ => qs = [q])
      (fun w => ⟨[q], World.requests_record_handed q w, rfl⟩) ?_
    rintro _ _ rfl
    refine Work.Traces.lift_bind (handsOver_pause r.sendDelay) ?_
    rintro _ _ rfl
    exact (h q).mono fun qs _ hqs => by rw [hqs]; rfl

variable {ρ : Type} [Reply ρ] {R : Resumption}

namespace Chain

open Call (Ends)

variable {skippers : List Skipper} {bs : List Builtin} {x : Entrance ρ} {d : Departure ρ CallResult}

/-- A response that a chain hands out is that of an exchange at its center, on the same request but
for headers that stages added. -/
theorem center_of_carried {response : RawResponse} (h : EndsFrom R skippers bs x d)
    (hcarried : carried? d.outcome = some response) :
    ∃ (y : Entrance ρ) (e : Departure ρ CallResult),
      Ends R (Exchange.run y.context) y.invocation y.world e ∧
      carried? e.outcome = some response ∧
      y.invocation = { x.invocation with options := y.invocation.options } ∧
      y.invocation.info =
        { x.invocation.info with
          headers := y.invocation.info.headers
          responseNotParse := y.invocation.info.responseNotParse } ∧
      y.world.requests = x.world.requests ∧ d.world.requests = e.world.requests := by
  cases hskip : Skipper.any skippers x.invocation.method x.invocation.target with
  | true => exact ⟨x, d, (endsFrom_iff_of_skips hskip).mp h, hcarried, rfl, rfl, rfl, rfl⟩
  | false =>
    induction bs generalizing x d with
    | nil => exact ⟨x, d, endsFrom_nil_iff.mp h, hcarried, rfl, rfl, rfl, rfl⟩
    | cons b bs ih =>
      rw [endsFrom_cons_iff hskip] at h
      split at h
      · subst h
        cases hcarried
      · obtain ⟨e, he, rfl⟩ := h
        rw [Builtin.carried?_leave] at hcarried
        have hskip' : Skipper.any skippers (b.enter x).invocation.method
            (b.enter x).invocation.target = false := by
          rw [Builtin.invocation_enter]
          exact hskip
        obtain ⟨y, e', hends, hcarried', hinvocation, hinfo, hrequests, hrequests'⟩ :=
          ih he hcarried hskip'
        refine ⟨y, e', hends, hcarried', ?_, ?_, ?_, ?_⟩
        · rw [hinvocation, Builtin.invocation_enter]
        · rw [hinfo, Builtin.info_enter]
        · rw [hrequests, Builtin.requests_enter]
        · rw [Builtin.requests_leave, hrequests']

end Chain

namespace Client

theorem requests_warned (c : Client) (catalog : Catalog) (options : List CallOption) (w : World) :
    (c.warned catalog options w).requests = w.requests := by
  unfold warned
  generalize (c.chainFor catalog (c.optionsOf options)).2 = records
  induction records generalizing w with
  | nil => rfl
  | cons r rest ih =>
    rw [List.foldl_cons, ih]
    refine World.requests_record ?_ w
    intro q hq
    cases hq

/-- What the response of a call tells of its request.  One request was handed to the connection, and
the headers of the response are its headers.  The URL of the response is that of the draft from which
the request processor made the request, so it is the URL that was sent exactly when the processor left
the URL of the draft alone. -/
theorem response_describes_request {c : Client} {catalog : Catalog} {ctx : CallContext}
    {method target : String} {body : RequestBody} {reply reply' : Option ρ}
    {options : List CallOption} {bs : List Builtin} {w w' : World} {o : Except Panic CallResult}
    {response : RawResponse} (hchain : c.HasChain catalog options bs)
    (hconnector : c.settings.connector.HandsOver)
    (hinfo : (CallInfo.ofOptions (c.optionsOf options)).Silent)
    (hR : ∀ g w w₁, R g w w₁ → w₁.requests = w.requests)
    (h : Work.Ends R (c.invoke catalog ctx method target body reply options) w (o, reply') w')
    (hcarried : carried? o = some response) :
    ∃ draft q : TransportRequest,
      w'.requests = w.requests ++ [q] ∧
      Processes (CallInfo.ofOptions (c.optionsOf options)) draft q ∧
      response.requestHeaders = q.headers ∧ response.requestUrl = draft.url ∧
      (response.requestUrl = q.url ↔ q.url = draft.url) := by
  obtain ⟨i', hends, -⟩ := (ends_invoke_iff hchain).mp ⟨w', h, rfl⟩
  obtain ⟨y, e, hcenter, hcarried', hinvocation, hinfo', hrequests, hrequests'⟩ :=
    Chain.center_of_carried hends hcarried
  obtain ⟨w₁, hw₁, hruns⟩ := hcenter
  -- What is watched of the call as it came in is watched at the center too.
  have hconnector' : y.invocation.client.connector.HandsOver := by
    rw [hinvocation]
    exact hconnector
  have hsilent : y.invocation.info.Silent := by
    rw [hinfo']
    exact ⟨hinfo.resolver, hinfo.process⟩
  obtain ⟨qs, hqs, hconcluded⟩ := Work.Traces.of_ends hR hruns
    (Exchange.traces_run (watches_requests hconnector' hsilent) y.context)
  obtain ⟨q, limit, rfl, hheaders, hprocesses⟩ := hconcluded.describes response hcarried'
  have hsent : w'.requests = w.requests ++ [q] := by
    calc w'.requests = w'.quiet.requests := (World.requests_quiet w').symm
      _ = e.world.requests := hrequests'
      _ = w₁.requests := by rw [← hw₁, World.requests_quiet]
      _ = y.world.requests ++ [q] := hqs
      _ = w.requests ++ [q] := by rw [hrequests]; exact congrArg (· ++ [q]) (requests_warned ..)
  have hprocesses' : Processes (CallInfo.ofOptions (c.optionsOf options))
      (draftOf y.invocation response.requestUrl limit) q := by
    rw [hinfo'] at hprocesses
    exact hprocesses
  exact ⟨draftOf y.invocation response.requestUrl limit, q, hsent, hprocesses', hheaders, rfl,
    eq_comm⟩

/-- A call without stages is its exchange. -/
theorem invoke_scripted_nil (remote : ScriptedRemote) (ctx : CallContext) (method target : String)
    (body : RequestBody) (reply : Option ρ) {options : List CallOption}
    (h : (CallInfo.ofOptions options).stages = none) :
    (scripted remote []).invoke .standard ctx method target body reply options =
      ((Exchange.run ctx).run.run
        ((scripted remote []).invocationOf method target body reply options)).bind fun r =>
          .done (r.1, r.2.reply.value?) := by
  have hchain : (scripted remote []).chainFor .standard ((scripted remote []).optionsOf options) =
      ([], []) := by
    rw [chainFor, show (scripted remote []).optionsOf options = options from rfl, h]
    rfl
  rw [← Chain.run_nil Exchange.run ctx]
  unfold invoke
  dsimp only
  rw [show CallOption.combine (scripted remote []).options options =
    (scripted remote []).optionsOf options from rfl, hchain]
  rfl

/-- An option that sends the request to another URL. -/
def redirecting : CallOption :=
  .processRequest fun q w => (.ok (.ok { q with url := "http://elsewhere.test/y" }), w)

theorem response_describes_request_redirected :
    ∃ (w' : World) (response : RawResponse),
      Work.Ends Work.alone
        ((scripted .ok []).invoke .standard (.ofToken ⟨[0]⟩) "GET" "/v1/orders" .empty
          (none : Option Json) [redirecting])
        .initial (.ok (.ok response), none) w' ∧
      ∃ draft q : TransportRequest,
        w'.requests = World.initial.requests ++ [q] ∧
        Processes (CallInfo.ofOptions [redirecting]) draft q ∧
        response.requestHeaders = q.headers ∧ response.requestUrl = draft.url ∧
        (response.requestUrl = q.url ↔ q.url = draft.url) := by
  have hconnector : (scripted .ok []).settings.connector.HandsOver :=
    ScriptedRemote.handsOver fun _ => rfl
  have hinfo : (CallInfo.ofOptions [redirecting]).Silent := by
    refine ⟨fun _ h => (by cases h), fun _ h => ?_⟩
    cases h
    exact fun _ _ => rfl
  have hrun : ∃ (w' : World) (response : RawResponse),
      ((scripted .ok []).invoke .standard (.ofToken ⟨[0]⟩) "GET" "/v1/orders" .empty
        (none : Option Json) [redirecting]).run .initial = some ((.ok (.ok response), none), w') := by
    rw [invoke_scripted_nil _ _ _ _ _ _ rfl]
    exact ⟨_, _, rfl⟩
  obtain ⟨w', response, hrun⟩ := hrun
  have hends := Work.run_eq_some_iff.mp hrun
  have halone (g : Guard) (w w₁ : World) (h : Work.alone g w w₁) : w₁.requests = w.requests := by
    rw [World.settle_frame h]
    rfl
  exact ⟨w', response, hends, response_describes_request (hasChain_scripted .ok [] rfl) hconnector
    hinfo halone hends rfl⟩

/-- The URL of a response is not the URL that was sent when the request processor changes it. -/
theorem response_url_not_sent :
    ∃ (w' : World) (response : RawResponse),
      ((scripted .ok []).invoke .standard (.ofToken ⟨[0]⟩) "GET" "/v1/orders" .empty
        (none : Option Json) [redirecting]).run .initial = some ((.ok (.ok response), none), w') ∧
      w'.requests.map (·.url) = ["http://elsewhere.test/y"] ∧
      response.requestUrl = "http://service.test/v1/orders" := by
  rw [invoke_scripted_nil _ _ _ _ _ _ rfl]
  refine ⟨_, _, rfl, ?_, ?_⟩
  · rfl
  · decide

end Client

end CallChain
