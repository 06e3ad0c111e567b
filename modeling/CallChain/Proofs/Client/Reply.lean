import CallChain.Proofs.Chain.Reply
import CallChain.Proofs.Client.Invoke

/-!
# The reply a call leaves behind

A caller finds its reply as it was or decoded as a whole.  Which of the two depends on whether a response
was received and decodes, whether a gate ran and what it made of the status, and whether decoding was
put off by an option of the call.
-/

set_option autoImplicit false

namespace CallChain

open Exchange (Transfer)

variable {ρ : Type} [Reply ρ]

/-- What is kept about the reply of a call: with or without a gate on the way, with decoding put off or
not, for the response that was received and the outcome of the call. -/
structure Reply.Written (gated : Prop) (noParse : Bool) (received : Option RawResponse)
    (o : Except Panic CallResult) (before after : Option ρ) : Prop where
  /-- The reply is as before, or it was there and is the whole value of the body. -/
  whole : after = before ∨ ∃ r reply reply', received = some r ∧ before = some reply ∧
    Reply.decode? reply r.body = some reply' ∧ after = some reply'
  /-- It is as before when no response was received. -/
  unanswered : received = none → after = before
  /-- It is as before when the body does not decode. -/
  undecodable : ∀ r reply, received = some r → before = some reply →
    Reply.decode? reply r.body = none → after = before
  /-- It is as before when a gate ran and the status is not one of success. -/
  turnedAway : ∀ r, received = some r → gated → r.isSuccess = false → after = before
  /-- It is as before when decoding was put off and no gate ran. -/
  unread : ¬ gated → noParse = true → after = before
  /-- A call that succeeds received its response, and the body is decoded if a gate ran or decoding
  was not put off. -/
  returned : ∀ r reply, o = .ok (.ok r) → before = some reply → received = some r ∧
    (gated ∨ noParse = false →
      ∃ reply', Reply.decode? reply r.body = some reply' ∧ after = some reply')
  /-- And only then, where decoding makes a difference. -/
  distinct : ∀ r reply reply', o = .ok (.ok r) → before = some reply →
    Reply.decode? reply r.body = some reply' → reply' ≠ reply →
      (after = some reply' ↔ gated ∨ noParse = false)

/-- What the settlement of an open reply says of the reply itself. -/
theorem Reply.written_of_settlement {gated : Prop} {noParse : Bool} {received : Option RawResponse}
    {o : Except Panic CallResult} {before : Option ρ} {slot : ReplySlot ρ}
    (h : Chain.Settlement gated noParse received o (.ofOption before) slot) :
    Reply.Written gated noParse received o before slot.value? := by
  have hsame (hslot : slot = .ofOption before) : slot.value? = before := by
    rw [hslot, ReplySlot.value?_ofOption]
  have hdecoded {body : Bytes} {reply : ρ} (hbefore : before = some reply)
      (hslot : (ReplySlot.ofOption before).decoded? body = some slot) :
      ∃ reply', Reply.decode? reply body = some reply' ∧ slot.value? = some reply' := by
    subst hbefore
    obtain ⟨reply', hdecode, rfl⟩ := Option.map_eq_some_iff.mp hslot
    exact ⟨reply', hdecode, rfl⟩
  have hreturned (r : RawResponse) (reply : ρ) (ho : o = .ok (.ok r)) (hbefore : before = some reply)
      (hparse : gated ∨ noParse = false) :
      ∃ reply', Reply.decode? reply r.body = some reply' ∧ slot.value? = some reply' :=
    hdecoded hbefore ((h.returned r ho).2 hparse)
  refine ⟨?_, fun hnone => hsame (h.unanswered hnone), fun r reply hr hbefore hnone => ?_,
    fun r hr hgate hfailed => hsame (h.turnedAway r hr hgate hfailed),
    fun hgate hparse => hsame (h.unread hgate hparse),
    fun r reply ho hbefore => ⟨(h.returned r ho).1, hreturned r reply ho hbefore⟩,
    fun r reply reply' ho hbefore hdecode hne => ⟨fun hafter => ?_, fun hparse => ?_⟩⟩
  · cases hreceived : received with
    | none => exact .inl (hsame (h.unanswered hreceived))
    | some r =>
      rcases h.either r hreceived with hslot | hslot
      · exact .inl (hsame hslot)
      · cases hbefore : before with
        | none =>
          rw [hbefore] at hslot
          cases hslot
          exact .inl rfl
        | some reply =>
          obtain ⟨reply', hdecode, hafter⟩ := hdecoded hbefore hslot
          exact .inr ⟨r, reply, reply', rfl, rfl, hdecode, hafter⟩
  · rcases h.either r hr with hslot | hslot
    · exact hsame hslot
    · obtain ⟨reply', hdecode, -⟩ := hdecoded hbefore hslot
      rw [hnone] at hdecode
      cases hdecode
  · -- If nothing asked for decoding, the reply would be the old one.
    refine Classical.byContradiction fun hneither => ?_
    rw [not_or, Bool.not_eq_false] at hneither
    have hold := hsame (h.unread hneither.1 hneither.2)
    rw [hafter, hbefore] at hold
    exact hne (Option.some.inj hold)
  · obtain ⟨decoded, hdecode', hafter⟩ := hreturned r reply ho hbefore hparse
    rw [hdecode] at hdecode'
    rw [hafter, Option.some.inj hdecode']

namespace Client

/-- The reply of a call is written as a whole or not at all, and only when the call may write it. -/
theorem invoke_writes_reply_whole {R : Resumption} {c : Client} {catalog : Catalog}
    {ctx : CallContext} {method target : String} {body : RequestBody} {reply reply' : Option ρ}
    {options : List CallOption} {bs : List Builtin} {w w' : World} {o : Except Panic CallResult}
    (hchain : c.HasChain catalog options bs) (hsteady : Reply.Steady ρ)
    (h : Work.Ends R (c.invoke catalog ctx method target body reply options) w (o, reply') w') :
    ∃ (t : Option Transfer) (i' : Invocation ρ),
      Chain.Trip R c.skippers bs (c.entranceOf catalog ctx method target body reply options w) t
        ⟨o, i', w'.quiet⟩ ∧
      Reply.Written
        (Builtin.statusCodeGate ∈
          Chain.passed c.skippers bs (c.invocationOf method target body reply options))
        (CallInfo.ofOptions (c.optionsOf options)).responseNotParse (t.bind Transfer.received?) o
        reply reply' := by
  obtain ⟨i', hends, rfl⟩ := (ends_invoke_iff hchain).mp ⟨w', h, rfl⟩
  obtain ⟨t, htrip⟩ := Chain.endsFrom_iff_trip.mp hends
  exact ⟨t, i', htrip, Reply.written_of_settlement (htrip.settlement hsteady)⟩

/-- A call through a gate, with a reply and a response of success. -/
theorem invoke_writes_reply_whole_gated :
    ∃ (o : Except Panic CallResult) (reply' : Option Json) (w' : World),
      Work.Ends Work.alone
        ((scripted .ok [.statusCodeGate]).invoke .standard (.ofToken ⟨[0]⟩) "GET" "/" .empty
          (some Json.null) [])
        .initial (o, reply') w' ∧
      ∃ (t : Option Transfer) (i' : Invocation Json),
        Chain.Trip Work.alone [] [.statusCodeGate]
          ((scripted .ok [.statusCodeGate]).entranceOf .standard (.ofToken ⟨[0]⟩) "GET" "/" .empty
            (some Json.null) [] .initial) t ⟨o, i', w'.quiet⟩ ∧
        Reply.Written (Builtin.statusCodeGate ∈ [Builtin.statusCodeGate]) false
          (t.bind Transfer.received?) o (some Json.null) reply' := by
  let x : Entrance Json := (scripted .ok [.statusCodeGate]).entranceOf .standard (.ofToken ⟨[0]⟩)
    "GET" "/" .empty (some Json.null) [] .initial
  have hfetch : ∃ r v, ((Exchange.fetch x.context).run.run.run
      (Builtin.statusCodeGate.enter x).invocation).run .initial = some (r, v) :=
    ⟨_, _, rfl⟩
  obtain ⟨⟨o, i⟩, v, hfetch⟩ := hfetch
  have hcenter : Chain.EndsFrom Work.alone [] [] (Builtin.statusCodeGate.enter x) _ :=
    Chain.endsFrom_nil_iff.mpr (Exchange.ends_run_iff.mpr
      ⟨⟨o, i, v.quiet⟩, ⟨v, rfl, Work.run_eq_some_iff.mp hfetch⟩, rfl⟩)
  have hgate := Chain.endsFrom_cons_of_passes (b := .statusCodeGate) (x := x) rfl
    (by rintro ⟨⟨⟩, -⟩) hcenter
  have hchain : (scripted .ok [.statusCodeGate]).HasChain .standard [] [.statusCodeGate] :=
    hasChain_scripted .ok _ rfl
  obtain ⟨w', h, -⟩ := (ends_invoke_iff hchain).mpr ⟨_, hgate, rfl⟩
  exact ⟨_, _, w', h, invoke_writes_reply_whole hchain (Reply.steady_of_body fun _ _ _ => rfl) h⟩

end Client

end CallChain
