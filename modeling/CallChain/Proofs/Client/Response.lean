import CallChain.Proofs.Chain.Reply
import CallChain.Proofs.Client.Description

/-!
# The response that a failed call carries

A failed call carries the response it received, if it received one, as it came.  Before a request is
handed over there are many ways to fail, and each of them leaves the connection and the reply alone.
-/

set_option autoImplicit false

namespace CallChain

open Exchange (Transfer)

variable {ρ : Type} [Reply ρ]

/-- What comes of a call that got as far as the transfer, or to none: its outcome, and the reply before
and after it. -/
structure Exchange.Transfer.Yields (t : Option Transfer) (o : Except Panic CallResult)
    (before after : Option ρ) : Prop where
  /-- A failure carries the response that was received, and no other. -/
  failure : ∀ f, o = .ok (.error f) → f.response = t.bind Transfer.received?
  /-- A success is the response that was received. -/
  success : ∀ r, o = .ok (.ok r) → t.bind Transfer.received? = some r
  /-- Without a response the reply is as it was. -/
  reply : t.bind Transfer.received? = none → after = before

namespace Client

/-- One call hands over one request at most, and a failure carries the response to it exactly if it
was received in time.  A call that is refused, that finds no request to make, no time or no connection
for it hands over nothing, leaves the reply alone and carries no response. -/
theorem invoke_failure_carries_response {R : Resumption} {c : Client} {catalog : Catalog}
    {ctx : CallContext} {method target : String} {body : RequestBody} {reply reply' : Option ρ}
    {options : List CallOption} {bs : List Builtin} {w w' : World} {o : Except Panic CallResult}
    (hchain : c.HasChain catalog options bs)
    (h : Work.Ends R (c.invoke catalog ctx method target body reply options) w (o, reply') w') :
    ∃ (t : Option Transfer) (i' : Invocation ρ),
      Chain.Trip R c.skippers bs (c.entranceOf catalog ctx method target body reply options w) t
        ⟨o, i', w'.quiet⟩ ∧
      Transfer.Yields t o reply reply' ∧
      (Chain.Unsent R c.skippers bs (c.entranceOf catalog ctx method target body reply options w) →
        t = none) ∧
      (c.settings.connector.HandsOver → (CallInfo.ofOptions (c.optionsOf options)).Silent →
        (∀ g v v₁, R g v v₁ → v₁.requests = v.requests) →
        ∃ qs, w'.requests = w.requests ++ qs ∧
          qs <+: (t.map fun t => t.prepared.request).toList) := by
  obtain ⟨i', hends, rfl⟩ := (ends_invoke_iff hchain).mp ⟨w', h, rfl⟩
  obtain ⟨t, htrip⟩ := Chain.endsFrom_iff_trip.mp hends
  have hcarried : carried? o = t.bind Transfer.received? := htrip.carried?_eq
  refine ⟨t, i', htrip, ⟨?_, ?_, fun hnone => ?_⟩, htrip.eq_none, fun hconnector hinfo hR => ?_⟩
  · rintro f rfl
    exact hcarried
  · rintro r rfl
    exact hcarried.symm
  · have hreply : i'.reply = .ofOption reply := htrip.reply_eq (hcarried.trans hnone)
    rw [hreply, ReplySlot.value?_ofOption]
  · -- What is watched of the call as it came in is watched at the center too.
    have hkeeps := Builtin.keeps_enterAll (r := fun v v' => v'.requests = v.requests)
      (x := c.entranceOf catalog ctx method target body reply options w)
      ⟨hinfo.resolver, hinfo.process⟩
      (Chain.passed c.skippers bs (c.invocationOf method target body reply options))
    have hwatches := watches_requests (by rw [Builtin.invocation_enterAll]; exact hconnector)
      ⟨hkeeps.resolver, hkeeps.process⟩
    obtain ⟨qs, hqs, hprefix⟩ := htrip.requests_eq hwatches hR
    refine ⟨qs, ?_, hprefix⟩
    rw [← World.requests_quiet w', hqs]
    exact congrArg (· ++ qs) (requests_warned c catalog options w)

/-- A remote side that is overloaded. -/
def overloaded : ScriptedRemote := .answering fun _ => return .ok (.new 503 [])

/-- A call through a gate whose response is not one of success. -/
theorem invoke_failure_carries_response_gated :
    ∃ (o : Except Panic CallResult) (reply' : Option Json) (w' : World),
      Work.Ends Work.alone
        ((scripted overloaded [.statusCodeGate]).invoke .standard (.ofToken ⟨[0]⟩) "GET" "/" .empty
          (some Json.null) [])
        .initial (o, reply') w' ∧
      ∃ (t : Option Transfer) (i' : Invocation Json),
        Chain.Trip Work.alone [] [.statusCodeGate]
          ((scripted overloaded [.statusCodeGate]).entranceOf .standard (.ofToken ⟨[0]⟩) "GET" "/"
            .empty (some Json.null) [] .initial) t ⟨o, i', w'.quiet⟩ ∧
        Transfer.Yields t o (some Json.null) reply' := by
  let x : Entrance Json := (scripted overloaded [.statusCodeGate]).entranceOf .standard
    (.ofToken ⟨[0]⟩) "GET" "/" .empty (some Json.null) [] .initial
  have hfetch : ∃ r v, ((Exchange.fetch x.context).run.run.run
      (Builtin.statusCodeGate.enter x).invocation).run .initial = some (r, v) :=
    ⟨_, _, rfl⟩
  obtain ⟨⟨o, i⟩, v, hfetch⟩ := hfetch
  have hcenter : Chain.EndsFrom Work.alone [] [] (Builtin.statusCodeGate.enter x) _ :=
    Chain.endsFrom_nil_iff.mpr (Exchange.ends_run_iff.mpr
      ⟨⟨o, i, v.quiet⟩, ⟨v, rfl, Work.run_eq_some_iff.mp hfetch⟩, rfl⟩)
  have hgate := Chain.endsFrom_cons_of_passes (b := .statusCodeGate) (x := x) rfl
    (by rintro ⟨⟨⟩, -⟩) hcenter
  have hchain : (scripted overloaded [.statusCodeGate]).HasChain .standard [] [.statusCodeGate] :=
    hasChain_scripted overloaded _ rfl
  obtain ⟨w', h, -⟩ := (ends_invoke_iff hchain).mpr ⟨_, hgate, rfl⟩
  obtain ⟨t, i', htrip, hyields, -⟩ := invoke_failure_carries_response hchain h
  exact ⟨_, _, w', h, t, i', htrip, hyields⟩

end Client

end CallChain
