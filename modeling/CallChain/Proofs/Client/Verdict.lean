import CallChain.Proofs.Chain.Leaving
import CallChain.Proofs.Client.Reordering
import CallChain.Proofs.Exchange.Fetch

/-!
# Calls through the verdict

The verdict is a stage that reads how the call went off the reply, or off the body where the decoding
of the reply was put off.  `ends_verdict_iff` says how a call through the verdict alone ends when its
exchange has fetched a response: with the verdict of the reply that the response was decoded into.

A gate inside the verdict puts decoding off and decodes the reply itself.  The option that puts it off
is never taken back, so the verdict reads the body although the reply has been decoded by then
(`ends_gated_iff`).  `invoke_gated_verdict` sets the two calls side by side: they differ exactly as what
the body shows differs from what the decoded reply shows.  A JSON value shows what its body shows; a
reply that declares no place for a status does not.
-/

set_option autoImplicit false

namespace CallChain

open Call (Ends)
open StatusVerdict (fieldOfBody verdict)

namespace Chain

variable {ρ : Type} [Reply ρ] {R : Resumption} {skippers : List Skipper} {x : Entrance ρ}
  {d : Departure ρ CallResult}

/-- A chain of the verdict alone: what was fetched is concluded, and judged. -/
theorem endsFrom_verdict_iff
    (hskip : Skipper.any skippers x.invocation.method x.invocation.target = false) :
    EndsFrom R skippers [.statusVerdict] x d ↔
      ∃ e : Departure ρ CallResult, Ends R (Exchange.fetch x.context).run x.invocation x.world e ∧
        d = (e.andThen (Exchange.conclusion x.invocation.info.responseNotParse)).andThen
          StatusVerdict.leave := by
  rw [endsFrom_cons_iff hskip, if_neg fun h => by cases h.1]
  simp only [endsFrom_nil_iff, Exchange.ends_run_iff]
  constructor
  · rintro ⟨_, ⟨e, he, rfl⟩, rfl⟩
    exact ⟨e, he, rfl⟩
  · rintro ⟨e, he, rfl⟩
    exact ⟨_, ⟨e, he, rfl⟩, rfl⟩

/-- A chain of the verdict around a gate: nothing is decoded before the gate. -/
theorem endsFrom_gated_iff
    (hskip : Skipper.any skippers x.invocation.method x.invocation.target = false) :
    EndsFrom R skippers [.statusVerdict, .statusCodeGate] x d ↔
      ∃ e : Departure ρ CallResult,
        Ends R (Exchange.fetch x.context).run (x.invocation.push .responseNotParse) x.world e ∧
        d = ((e.andThen (Exchange.conclusion true)).andThen StatusCodeGate.leave).andThen
          StatusVerdict.leave := by
  have hflag : (x.invocation.push .responseNotParse).info.responseNotParse = true := by
    rw [Invocation.info_push]
    rfl
  rw [endsFrom_cons_iff hskip, if_neg fun h => by cases h.1]
  have hgate (e : Departure ρ CallResult) :
      EndsFrom R skippers [.statusCodeGate] (Builtin.statusVerdict.enter x) e ↔
        ∃ e₁, EndsFrom R skippers [] (Builtin.statusCodeGate.enter x) e₁ ∧
          e = e₁.andThen StatusCodeGate.leave := by
    show EndsFrom R skippers [.statusCodeGate] x e ↔ _
    rw [endsFrom_cons_iff hskip, if_neg fun h => by cases h.1]
    rfl
  simp only [hgate, endsFrom_nil_iff, Exchange.ends_run_iff]
  show (∃ e, (∃ e₁, (∃ e₂, Ends R (Exchange.fetch x.context).run
    (x.invocation.push .responseNotParse) x.world e₂ ∧ e₁ = e₂.andThen (Exchange.conclusion
      (x.invocation.push .responseNotParse).info.responseNotParse)) ∧ _) ∧ _) ↔ _
  rw [hflag]
  constructor
  · rintro ⟨_, ⟨_, ⟨e, he, rfl⟩, rfl⟩, rfl⟩
    exact ⟨e, he, rfl⟩
  · rintro ⟨e, he, rfl⟩
    exact ⟨_, ⟨_, ⟨e, he, rfl⟩, rfl⟩, rfl⟩

end Chain

section

variable {ρ : Type} {R : Resumption} {i j : Invocation ρ} {response : RawResponse}

/-- A response that came back was fetched. -/
theorem Exchange.fetched_of_carried {ctx : CallContext} {w : World} {e : Departure ρ CallResult}
    (he : Ends R (Exchange.fetch ctx).run i w e) (hcarried : carried? e.outcome = some response) :
    e = ⟨.ok (.ok response), i, e.world⟩ := by
  obtain ⟨hi, -⟩ := (Exchange.ends_fetch_iff i.sibling_push).mp he
  obtain ⟨p | f | fetched, i', v⟩ := e
  · cases hcarried
  · rw [show carried? (.ok (.error f)) = f.response from rfl,
      Exchange.response_of_fetch_failure he rfl] at hcarried
    cases hcarried
  · cases hcarried
    cases hi
    rfl

/-- What follows a fetch and keeps its response ends with a response exactly if that was fetched, and then
with what it makes of it. -/
theorem Exchange.exists_fetch_iff {ctx : CallContext} {w : World}
    {after : Departure ρ CallResult → Departure ρ CallResult} {result : CallResult}
    (hkeeps : ∀ e, carried? (after e).outcome = carried? e.outcome)
    (hafter : ∀ v, after ⟨.ok (.ok response), i, v⟩ = ⟨.ok result, j, v⟩)
    {o : Except Panic CallResult} (hcarried : carried? o = some response) (i' : Invocation ρ)
    (v : World) :
    (∃ e : Departure ρ CallResult, Ends R (Exchange.fetch ctx).run i w e ∧ ⟨o, i', v⟩ = after e) ↔
      Ends R (Exchange.fetch ctx).run i w ⟨.ok (.ok response), i, v⟩ ∧ o = .ok result ∧ i' = j := by
  constructor
  · rintro ⟨e, he, hd⟩
    have hfetched : carried? e.outcome = some response := by
      rw [← hkeeps e, ← hd]
      exact hcarried
    have heq := Exchange.fetched_of_carried he hfetched
    rw [heq, hafter] at hd
    cases hd
    rw [heq] at he
    exact ⟨he, rfl, rfl⟩
  · rintro ⟨hfetches, rfl, rfl⟩
    exact ⟨_, hfetches, (hafter v).symm⟩

variable [Reply ρ]

theorem Exchange.decoded_of_decode {place : Place} {reply reply' : ρ}
    (hseen : i.reply.seen? = some reply)
    (hdecode : Reply.decode? reply response.body = some reply') :
    Exchange.decoded place i response = .ok { i with reply := .live reply' } := by
  simp [Exchange.decoded, hseen, hdecode]

/-- The verdict neither adds nor drops the response of an exchange. -/
theorem StatusVerdict.carried?_judged (noParse : Bool) (e : Departure ρ CallResult) :
    carried? ((e.andThen (Exchange.conclusion noParse)).andThen StatusVerdict.leave).outcome =
      carried? e.outcome := by
  rw [← Exchange.carried?_conclusion noParse e]
  exact Builtin.carried?_leave .statusVerdict e.invocation.codes _

/-- Nor does a gate inside the verdict. -/
theorem StatusVerdict.carried?_gated (e : Departure ρ CallResult) :
    carried? (((e.andThen (Exchange.conclusion true)).andThen StatusCodeGate.leave).andThen
      StatusVerdict.leave).outcome = carried? e.outcome := by
  have hgate := Builtin.carried?_leave .statusCodeGate e.invocation.codes
    (e.andThen (Exchange.conclusion true))
  rw [← Exchange.carried?_conclusion true e, ← hgate]
  exact Builtin.carried?_leave .statusVerdict e.invocation.codes _

/-- What the verdict alone makes of a response that decodes. -/
theorem StatusVerdict.leave_fetched (hparse : i.info.responseNotParse = false)
    (hdecoded : Exchange.decoded .decodeFails i response = .ok j) (v : World) :
    ((⟨.ok (.ok response), i, v⟩ : Departure ρ CallResult).andThen
        (Exchange.conclusion i.info.responseNotParse)).andThen StatusVerdict.leave =
      ⟨.ok (verdict i.codes (fieldOf j response) response), j, v⟩ := by
  have hcodes : j.codes = i.codes := by
    rw [Exchange.eq_of_decoded hdecoded]
    rfl
  simp only [hparse, Departure.andThen, Exchange.conclusion, Exchange.handOut, hdecoded,
    StatusVerdict.leave, hcodes, Bool.false_eq_true, if_false]

/-- What the verdict alone makes of a response whose decoding was put off. -/
theorem StatusVerdict.leave_deferred (hparse : i.info.responseNotParse = true) (v : World) :
    ((⟨.ok (.ok response), i, v⟩ : Departure ρ CallResult).andThen
        (Exchange.conclusion i.info.responseNotParse)).andThen StatusVerdict.leave =
      ⟨.ok (verdict i.codes (fieldOfBody response.body) response), i, v⟩ := by
  simp only [hparse, Departure.andThen, Exchange.conclusion, if_true, StatusVerdict.leave,
    fieldOf_of_notParse hparse]

/-- What the verdict around a gate makes of a response that decodes. -/
theorem StatusVerdict.leave_gated (hsuccess : response.isSuccess = true)
    (hparse : i.info.responseNotParse = true)
    (hdecoded : Exchange.decoded .gateDecodes i response = .ok j) (v : World) :
    (((⟨.ok (.ok response), i, v⟩ : Departure ρ CallResult).andThen
        (Exchange.conclusion true)).andThen StatusCodeGate.leave).andThen StatusVerdict.leave =
      ⟨.ok (verdict i.codes (fieldOfBody response.body) response), j, v⟩ := by
  have hj : j = { i with reply := j.reply } := Exchange.eq_of_decoded hdecoded
  have hcodes : j.codes = i.codes := by
    rw [hj]
    rfl
  have hfield : fieldOf j response = fieldOfBody response.body := by
    refine fieldOf_of_notParse ?_
    rw [hj]
    exact hparse
  simp only [Departure.andThen, Exchange.conclusion, if_true, StatusCodeGate.leave, hsuccess,
    Exchange.handOut, hdecoded, StatusVerdict.leave, hfield, hcodes]

end

/-- What a caller gives a client for one call. -/
structure Inquiry (ρ : Type) where
  context : CallContext
  method : String
  target : String
  body : RequestBody
  reply : Option ρ
  options : List CallOption

namespace Client

variable {ρ : Type} [Reply ρ] {R : Resumption} {c c' : Client} {q : Inquiry ρ}
  {options options' : List CallOption} {bs : List Builtin}

/-- The invocation an inquiry starts with. -/
def begin (c : Client) (q : Inquiry ρ) : Invocation ρ :=
  c.invocationOf q.method q.target q.body q.reply q.options

/-- A call can end with an outcome and a reply, in a world that is given without its log. -/
def EndsWith (R : Resumption) (c : Client) (q : Inquiry ρ) (w : World)
    (o : Except Panic CallResult) (r : Option ρ) (v : World) : Prop :=
  ∃ w', Work.Ends R (c.invoke .standard q.context q.method q.target q.body q.reply q.options) w
    (o, r) w' ∧ w'.quiet = v

/-- The exchange of a call can fetch a response. -/
def Fetches (R : Resumption) (c : Client) (q : Inquiry ρ) (w : World) (response : RawResponse)
    (v : World) : Prop :=
  Ends R (Exchange.fetch q.context).run (c.begin q) w ⟨.ok (.ok response), c.begin q, v⟩

/-- The chain of a call is made of the given stages of the library, and to find it gives no warning. -/
def RunsThrough (c : Client) (options : List CallOption) (bs : List Builtin) : Prop :=
  c.chainFor .standard (c.optionsOf options) = (bs.map (Builtin.stage · c.skippers), [])

omit [Reply ρ] in
theorem warnings_names (bs : List Builtin) :
    Catalog.standard.warnings (bs.map Builtin.name) = [] := by
  have hcontains (b : Builtin) : Catalog.standard.contains b.name = true := by
    cases b <;> decide
  simp [Catalog.warnings, hcontains]

/-- A call with an option that names stages of the library goes through these. -/
theorem runsThrough_stages (c : Client) (options : List CallOption) (bs : List Builtin) :
    c.RunsThrough (options ++ [.stages (bs.map Builtin.name)]) bs := by
  unfold RunsThrough chainFor
  rw [ofOptions_optionsOf_append]
  show (Catalog.standard.chainOf (bs.map Builtin.name) c.skippers,
    Catalog.standard.warnings (bs.map Builtin.name)) = _
  rw [Catalog.chainOf_names, warnings_names]

/-- A call ends as the chain it runs through does, with the reply as the chain left it. -/
theorem endsWith_iff (hchain : c.RunsThrough q.options bs) {w v : World}
    {o : Except Panic CallResult} {r : Option ρ} :
    EndsWith R c q w o r v ↔
      ∃ i', Chain.EndsFrom R c.skippers bs ⟨q.context, c.begin q, w⟩ ⟨o, i', v⟩ ∧
        r = i'.reply.value? := by
  have hhas : c.HasChain .standard q.options bs := by
    rw [HasChain, hchain]
  have hwarned : c.warned .standard q.options w = w := by
    rw [warned, hchain]
    rfl
  rw [EndsWith, ends_invoke_iff hhas, entranceOf, hwarned]
  rfl

/-- However a call through the verdict alone ends, its exchange can end with the same response, or without
one as the call does. -/
theorem exists_fetch_of_endsWith (hchain : c.RunsThrough q.options [.statusVerdict])
    (hskip : Skipper.any c.skippers q.method q.target = false) {w v : World}
    {o : Except Panic CallResult} {r : Option ρ} (h : EndsWith R c q w o r v) :
    ∃ e : Departure ρ CallResult, Ends R (Exchange.fetch q.context).run (c.begin q) w e ∧
      carried? e.outcome = carried? o := by
  obtain ⟨i', hends, -⟩ := (endsWith_iff hchain).mp h
  obtain ⟨e, he, hd⟩ := (Chain.endsFrom_verdict_iff hskip).mp hends
  refine ⟨e, he, ?_⟩
  rw [← StatusVerdict.carried?_judged (c.begin q).info.responseNotParse e, ← hd]

/-- A call through the verdict alone, where a response was fetched: it ends with what the verdict makes of
the response. -/
theorem endsWith_of_leave (hchain : c.RunsThrough q.options [.statusVerdict])
    (hskip : Skipper.any c.skippers q.method q.target = false) {w v : World} {response : RawResponse}
    {result : CallResult} {j : Invocation ρ}
    (hleave : ∀ v, ((⟨.ok (.ok response), c.begin q, v⟩ : Departure ρ CallResult).andThen
      (Exchange.conclusion (c.begin q).info.responseNotParse)).andThen StatusVerdict.leave =
        ⟨.ok result, j, v⟩)
    {o : Except Panic CallResult} (hcarried : carried? o = some response) {r : Option ρ} :
    EndsWith R c q w o r v ↔
      Fetches R c q w response v ∧ o = .ok result ∧ r = j.reply.value? := by
  rw [endsWith_iff hchain]
  have hends (i' : Invocation ρ) :=
    (Chain.endsFrom_verdict_iff (R := R) (x := ⟨q.context, c.begin q, w⟩) hskip).trans
      (Exchange.exists_fetch_iff (StatusVerdict.carried?_judged _) hleave hcarried i' v)
  simp only [hends]
  constructor
  · rintro ⟨i', ⟨hfetches, ho, rfl⟩, rfl⟩
    exact ⟨hfetches, ho, rfl⟩
  · rintro ⟨hfetches, ho, rfl⟩
    exact ⟨j, ⟨hfetches, ho, rfl⟩, rfl⟩

/-- Where the response decodes, that is the verdict of what the invocation shows after decoding. -/
theorem endsWith_verdict_iff (hchain : c.RunsThrough q.options [.statusVerdict])
    (hskip : Skipper.any c.skippers q.method q.target = false)
    (hparse : (c.begin q).info.responseNotParse = false) {w v : World} {response : RawResponse}
    {j : Invocation ρ} (hdecoded : Exchange.decoded .decodeFails (c.begin q) response = .ok j)
    {o : Except Panic CallResult} (hcarried : carried? o = some response) {r : Option ρ} :
    EndsWith R c q w o r v ↔
      Fetches R c q w response v ∧
        o = .ok (verdict c.settings.codes (StatusVerdict.fieldOf j response) response) ∧
        r = j.reply.value? :=
  endsWith_of_leave hchain hskip (fun v => StatusVerdict.leave_fetched hparse hdecoded v) hcarried

/-- Where decoding is put off, that is the verdict of the body. -/
theorem endsWith_deferred_iff (hchain : c.RunsThrough q.options [.statusVerdict])
    (hskip : Skipper.any c.skippers q.method q.target = false)
    (hparse : (c.begin q).info.responseNotParse = true) {w v : World} {response : RawResponse}
    {o : Except Panic CallResult} (hcarried : carried? o = some response) {r : Option ρ} :
    EndsWith R c q w o r v ↔
      Fetches R c q w response v ∧
        o = .ok (verdict c.settings.codes (fieldOfBody response.body) response) ∧
        r = (c.begin q).reply.value? :=
  endsWith_of_leave hchain hskip (fun v => StatusVerdict.leave_deferred hparse v) hcarried

/-- Without a reply, that is the verdict of the body whether decoding is put off or not. -/
theorem endsWith_body_iff (hchain : c.RunsThrough q.options [.statusVerdict])
    (hskip : Skipper.any c.skippers q.method q.target = false) (hreply : q.reply = none)
    {w v : World} {response : RawResponse} {o : Except Panic CallResult}
    (hcarried : carried? o = some response) {r : Option ρ} :
    EndsWith R c q w o r v ↔
      Fetches R c q w response v ∧
        o = .ok (verdict c.settings.codes (fieldOfBody response.body) response) ∧ r = none := by
  have hseen : (c.begin q).reply.seen? = none := by
    show (ReplySlot.ofOption q.reply).seen? = none
    rw [hreply]
    rfl
  have hvalue : (c.begin q).reply.value? = none := by
    show (ReplySlot.ofOption q.reply).value? = none
    rw [hreply]
    rfl
  cases hparse : (c.begin q).info.responseNotParse with
  | true => rw [endsWith_deferred_iff hchain hskip hparse hcarried, hvalue]
  | false =>
    have hdecoded : Exchange.decoded .decodeFails (c.begin q) response = .ok (c.begin q) := by
      unfold Exchange.decoded
      rw [hseen]
    have hfield : StatusVerdict.fieldOf (c.begin q) response = fieldOfBody response.body := by
      unfold StatusVerdict.fieldOf
      rw [hseen]
    rw [endsWith_verdict_iff hchain hskip hparse hdecoded hcarried, hfield, hvalue]

/-- With a reply, that is the verdict of the reply the response was decoded into. -/
theorem endsWith_reply_iff (hchain : c.RunsThrough q.options [.statusVerdict])
    (hskip : Skipper.any c.skippers q.method q.target = false)
    (hparse : (c.begin q).info.responseNotParse = false) {reply reply' : ρ}
    (hreply : q.reply = some reply) {w v : World} {response : RawResponse}
    (hdecode : Reply.decode? reply response.body = some reply')
    {o : Except Panic CallResult} (hcarried : carried? o = some response) {r : Option ρ} :
    EndsWith R c q w o r v ↔
      Fetches R c q w response v ∧
        o = .ok (verdict c.settings.codes (Reply.statusField reply') response) ∧
        r = some reply' := by
  have hseen : (c.begin q).reply.seen? = some reply := by
    show (ReplySlot.ofOption q.reply).seen? = some reply
    rw [hreply]
    rfl
  have hdecoded : Exchange.decoded .decodeFails (c.begin q) response = .ok _ :=
    Exchange.decoded_of_decode hseen hdecode
  have hfield : StatusVerdict.fieldOf { c.begin q with reply := .live reply' } response =
      Reply.statusField reply' := by
    unfold StatusVerdict.fieldOf
    rw [show Invocation.info { c.begin q with reply := .live reply' } = (c.begin q).info from rfl,
      hparse]
    rfl
  rw [endsWith_verdict_iff hchain hskip hparse hdecoded hcarried, hfield]
  rfl

omit [Reply ρ] in
/-- Behind a gate, the call is the same but for decoding. -/
theorem SameBut.sibling_push (hsame : c.SameBut c' q.options options') :
    (c.begin q).Sibling ((c'.begin { q with options := options' }).push .responseNotParse) := by
  obtain ⟨hsettings, -, stages, hinfo⟩ := hsame
  let i : Invocation ρ := (c'.begin { q with options := options' }).push .responseNotParse
  refine ⟨⟨i.options, ?_⟩, true, stages, ?_⟩
  · show i = ⟨q.method, q.target, q.body, .ofOption q.reply, i.options, c.settings⟩
    rw [← hsettings]
    rfl
  · rw [Invocation.info_push, show (c'.begin { q with options := options' }).info = _ from hinfo]
    rfl

/-- A call through the verdict around a gate, where a response of success was fetched and decodes: it
ends with the verdict of the body, and with the reply decoded all the same. -/
theorem endsWith_gated_iff (hsame : c.SameBut c' q.options options')
    (hchain : c'.RunsThrough options' [.statusVerdict, .statusCodeGate])
    (hskip : Skipper.any c.skippers q.method q.target = false) {reply reply' : ρ}
    (hreply : q.reply = some reply) {w v : World} {response : RawResponse}
    (hsuccess : response.isSuccess = true)
    (hdecode : Reply.decode? reply response.body = some reply')
    {o : Except Panic CallResult} (hcarried : carried? o = some response) {r : Option ρ} :
    EndsWith R c' { q with options := options' } w o r v ↔
      Fetches R c q w response v ∧
        o = .ok (verdict c.settings.codes (fieldOfBody response.body) response) ∧
        r = some reply' := by
  have hsibling := hsame.sibling_push
  obtain ⟨hsettings, hskippers, -⟩ := hsame
  rw [endsWith_iff hchain]
  -- the invocation behind the gate
  let i : Invocation ρ := (c'.begin { q with options := options' }).push .responseNotParse
  have hparse : i.info.responseNotParse = true := by
    show ((c'.begin { q with options := options' }).push .responseNotParse).info.responseNotParse = _
    rw [Invocation.info_push]
    rfl
  have hseen : i.reply.seen? = some reply := by
    show (ReplySlot.ofOption q.reply).seen? = some reply
    rw [hreply]
    rfl
  have hcodes : i.codes = c.settings.codes := congrArg (fun s => s.codes) hsettings
  have hleave (v : World) := StatusVerdict.leave_gated hsuccess hparse
    (Exchange.decoded_of_decode hseen hdecode) v
  rw [hcodes] at hleave
  have hskip' : Skipper.any c'.skippers q.method q.target = false := by rw [hskippers, hskip]
  have hfetches : Fetches R c q w response v ↔
      Ends R (Exchange.fetch q.context).run i w ⟨.ok (.ok response), i, v⟩ := by
    rw [Fetches, Exchange.ends_fetch_iff hsibling]
    exact and_iff_right rfl
  have hends (i' : Invocation ρ) :=
    (Chain.endsFrom_gated_iff (R := R) (x := ⟨q.context, c'.begin { q with options := options' }, w⟩)
      hskip').trans
      (Exchange.exists_fetch_iff StatusVerdict.carried?_gated hleave hcarried i' v)
  simp only [hends, hfetches]
  constructor
  · rintro ⟨i', ⟨hresponse, ho, rfl⟩, rfl⟩
    exact ⟨hresponse, ho, rfl⟩
  · rintro ⟨hresponse, ho, rfl⟩
    exact ⟨_, ⟨hresponse, ho, rfl⟩, rfl⟩

/-- A call for a reply that declares no place for a status, through stages of the library. -/
def plainInquiry (bs : List Builtin) : Inquiry Plain :=
  ⟨.ofToken ⟨[0]⟩, "GET", "/v1/orders", .empty, some ⟨.null⟩, [.stages (bs.map Builtin.name)]⟩

/-- The remote side that reports success is asked, and its response decodes. -/
theorem fetches_plainInquiry (bs : List Builtin) :
    ∃ (response : RawResponse) (v : World),
      Fetches Work.alone (scripted .ok []) (plainInquiry bs) .initial response v ∧
      response.isSuccess = true ∧ response.body = (TransportResponse.success .null).body := by
  have hrun : ∃ (response : RawResponse) (w' : World),
      ((Exchange.fetch (plainInquiry bs).context).run.run.run
        ((scripted .ok []).begin (plainInquiry bs))).run .initial =
        some ((.ok (.ok response), (scripted .ok []).begin (plainInquiry bs)), w') ∧
      response.isSuccess = true ∧ response.body = (TransportResponse.success .null).body :=
    ⟨_, _, rfl, rfl, rfl⟩
  obtain ⟨response, w', hrun, hresponse⟩ := hrun
  exact ⟨response, w'.quiet, ⟨w', rfl, Work.run_eq_some_iff.mp hrun⟩, hresponse⟩

/-- A body that reports success decodes into a reply without a place for a status. -/
theorem decode_plain_success :
    ∃ reply', Reply.decode? (⟨.null⟩ : Plain) (TransportResponse.success .null).body = some reply' := by
  have hsome : (Json.parse? (TransportResponse.success .null).body).isSome = true := by
    decide +kernel
  obtain ⟨v, hv⟩ := Option.isSome_iff_exists.mp hsome
  refine ⟨⟨v⟩, ?_⟩
  show (Json.parse? _).map Plain.mk = _
  rw [hv]
  rfl

/-- The verdict of a call with a reply is that of the decoded reply.  With a gate inside, it is that of
the body: where a response of success was fetched that decodes, a call through the verdict alone ends
with what the decoded reply shows, and the same call through the verdict around a gate with what the
body shows. -/
theorem invoke_gated_verdict (hsame : c.SameBut c' q.options options')
    (halone : c.RunsThrough q.options [.statusVerdict])
    (hgated : c'.RunsThrough options' [.statusVerdict, .statusCodeGate])
    (hskip : Skipper.any c.skippers q.method q.target = false)
    (hparse : (c.begin q).info.responseNotParse = false) {reply : ρ} (hreply : q.reply = some reply)
    (R : Resumption) (w : World) :
    ∀ (response : RawResponse) (reply' : ρ), response.isSuccess = true →
      Reply.decode? reply response.body = some reply' →
      ∀ (o : Except Panic CallResult) (r : Option ρ) (v : World), carried? o = some response →
        (EndsWith R c q w o r v ↔ Fetches R c q w response v ∧
          o = .ok (verdict c.settings.codes (Reply.statusField reply') response) ∧
          r = some reply') ∧
        (EndsWith R c' { q with options := options' } w o r v ↔ Fetches R c q w response v ∧
          o = .ok (verdict c.settings.codes (fieldOfBody response.body) response) ∧
          r = some reply') := by
  intro response reply' hsuccess hdecode o r v hcarried
  exact ⟨endsWith_reply_iff halone hskip hparse hreply hdecode hcarried,
    endsWith_gated_iff hsame hgated hskip hreply hsuccess hdecode hcarried⟩

theorem invoke_gated_verdict_plain :
    ∃ (response : RawResponse) (reply' : Plain) (v : World),
      EndsWith Work.alone (scripted .ok []) (plainInquiry [.statusVerdict]) .initial
        (.ok (verdict (scripted .ok []).settings.codes (Reply.statusField reply') response))
        (some reply') v ∧
      EndsWith Work.alone (scripted .ok [])
        { plainInquiry [.statusVerdict] with
          options := [.stages (["callstatus", "statuscode"])] } .initial
        (.ok (verdict (scripted .ok []).settings.codes (fieldOfBody response.body) response))
        (some reply') v := by
  obtain ⟨response, v, hfetches, hsuccess, hbody⟩ := fetches_plainInquiry [.statusVerdict]
  obtain ⟨reply', hdecode⟩ := decode_plain_success
  rw [← hbody] at hdecode
  have hends := invoke_gated_verdict
    (sameBut_stages (scripted .ok []) [] ["callstatus"] ["callstatus", "statuscode"])
    (q := plainInquiry [.statusVerdict])
    (runsThrough_stages (scripted .ok []) [] [.statusVerdict])
    (runsThrough_stages (scripted .ok []) [] [.statusVerdict, .statusCodeGate]) rfl rfl rfl
    Work.alone .initial response reply' hsuccess hdecode
  have hcarried (field : StatusField) : carried? (.ok (verdict (scripted .ok []).settings.codes field
      response)) = some response := StatusVerdict.carried?_verdict _ _ _
  exact ⟨response, reply', v, (hends _ _ v (hcarried _)).1.mpr ⟨hfetches, rfl, rfl⟩,
    (hends _ _ v (hcarried _)).2.mpr ⟨hfetches, rfl, rfl⟩⟩

/-- The decoded reply does not decide: the same response, decoded into the same reply without a place
for a status, breaks the rule in a call through the verdict alone, and passes behind a gate. -/
theorem gated_verdict_passes_plain :
    ∃ (response : RawResponse) (reply' : Plain) (f : CallFailure) (v : World),
      response.isSuccess = true ∧ Reply.decode? (⟨.null⟩ : Plain) response.body = some reply' ∧
      EndsWith Work.alone (scripted .ok []) (plainInquiry [.statusVerdict]) .initial
        (.ok (.error f)) (some reply') v ∧
      f.fault.description = "reply has no call status field" ∧
      EndsWith Work.alone (scripted .ok []) (plainInquiry [.statusVerdict, .statusCodeGate]) .initial
        (.ok (.ok response)) (some reply') v := by
  obtain ⟨response, v, hfetches, hsuccess, hbody⟩ := fetches_plainInquiry [.statusVerdict]
  obtain ⟨reply', hdecode⟩ := decode_plain_success
  rw [← hbody] at hdecode
  have hverdict : verdict (scripted .ok []).settings.codes (fieldOfBody response.body) response =
      .ok response := by
    have hfield : (fieldOfBody response.body).status?.map
        (·.isSuccess (scripted .ok []).settings.codes) = some true := by
      rw [hbody]
      decide +kernel
    cases hshown : fieldOfBody response.body with
    | present s =>
      rw [hshown] at hfield
      have hs : s.isSuccess (scripted .ok []).settings.codes = true := Option.some.inj hfield
      simp [verdict, StatusVerdict.violation?, CallStatus.toFault, StatusField.status?, hs]
    | absent | null | invalid =>
      rw [hshown] at hfield
      cases hfield
  let codes := (scripted .ok []).settings.codes
  refine ⟨response, reply', .withResponse (Fault.wrap codes (codes.site .verdictViolated)
    Codes.callStatusViolation "reply has no call status field") response, v, hsuccess, hdecode, ?_,
    rfl, ?_⟩
  · exact (endsWith_verdict_iff (runsThrough_stages (scripted .ok []) [] [.statusVerdict]) rfl rfl
      (Exchange.decoded_of_decode rfl hdecode) rfl).mpr ⟨hfetches, rfl, rfl⟩
  · exact (endsWith_gated_iff (q := plainInquiry [.statusVerdict])
      (sameBut_stages (scripted .ok []) [] ["callstatus"] ["callstatus", "statuscode"])
      (runsThrough_stages (scripted .ok []) [] [.statusVerdict, .statusCodeGate]) rfl rfl hsuccess
      hdecode rfl).mpr ⟨hfetches, by rw [hverdict], rfl⟩

/-- A JSON value shows where its body shows it. -/
theorem statusField_of_decode_json {value value' : Json} {body : Bytes}
    (h : Reply.decode? value body = some value') : Reply.statusField value' = fieldOfBody body := by
  have hparse : Json.parse? body = some value' := h
  unfold fieldOfBody
  rw [hparse]
  rfl

/-- For a JSON value as its reply, a gate inside the verdict changes nothing. -/
theorem endsWith_gated_json {q : Inquiry Json} (hsame : c.SameBut c' q.options options')
    (halone : c.RunsThrough q.options [.statusVerdict])
    (hgated : c'.RunsThrough options' [.statusVerdict, .statusCodeGate])
    (hskip : Skipper.any c.skippers q.method q.target = false)
    (hparse : (c.begin q).info.responseNotParse = false) {reply reply' : Json}
    (hreply : q.reply = some reply) {w v : World} {response : RawResponse}
    (hsuccess : response.isSuccess = true)
    (hdecode : Reply.decode? reply response.body = some reply')
    {o : Except Panic CallResult} (hcarried : carried? o = some response) {r : Option Json} :
    EndsWith R c q w o r v ↔ EndsWith R c' { q with options := options' } w o r v := by
  rw [endsWith_reply_iff halone hskip hparse hreply hdecode hcarried,
    endsWith_gated_iff hsame hgated hskip hreply hsuccess hdecode hcarried,
    statusField_of_decode_json hdecode]

end Client

end CallChain
