import CallChain.Proofs.Call.Options
import CallChain.Proofs.Client.Verdict
import CallChain.Proofs.Fault.Registry
import CallChain.Proofs.Status.Agreement

/-!
# The verdict of an envelope and of the body it was decoded from

The verdict of a call reads the status off the reply, or off the body of the response where the decoding of
the reply was put off.  For an envelope the two come to the same verdict
(`invoke_views_agree`): the envelope is decoded straight from the text and the body is read as a value first,
and both find the same status, or neither finds one.
-/

set_option autoImplicit false

namespace CallChain

namespace StatusVerdict

/-- A failure conveys a status: its code, as far as the registry knows it, its description, and its history
with one more frame. -/
structure Conveys (codes : CodeRegistry) (s : CallStatus) (response : RawResponse) (f : CallFailure) :
    Prop where
  code : f.fault.code = if codes.isRegistered s.code = true then s.code else Codes.unknown
  description : f.fault.description = s.description
  stack : f.fault.stack = s.stack ++ [codes.stamp .verdictReports f.fault.code]
  response : f.response = some response

/-- A failure says that a reply breaks the rule. -/
structure Violation (response : RawResponse) (f : CallFailure) : Prop where
  code : f.fault.code = Codes.callStatusViolation
  response : f.response = some response

/-- Two verdicts on a response that come to the same: the response passes, or it is turned away with the
failure of the same status, or it breaks the rule. -/
inductive Concur (codes : CodeRegistry) (response : RawResponse) : CallResult → CallResult → Prop where
  | passes : Concur codes response (.ok response) (.ok response)
  | conveyed {s : CallStatus} {f : CallFailure} :
      s.isSuccess codes = false → Conveys codes s response f → Concur codes response (.error f) (.error f)
  | violated {f g : CallFailure} :
      Violation response f → Violation response g → Concur codes response (.error f) (.error g)

variable {codes : CodeRegistry} {response : RawResponse}

theorem violation_wrap (hbuilt : codes.Built) (reason : String) :
    Violation response
      (.withResponse
        (Fault.wrap codes (codes.site .verdictViolated) Codes.callStatusViolation reason) response) :=
  ⟨hbuilt.code_lookup_base (by decide), rfl⟩

theorem conveys_ofStack (hbuilt : codes.Built) (s : CallStatus) :
    Conveys codes s response (.withResponse
      (Fault.pushFrame codes (codes.site .verdictReports)
        (Fault.ofStack codes s.code s.description s.stack)) response) :=
  ⟨hbuilt.code_lookup s.code, rfl, rfl, rfl⟩

/-- A status of success passes the response. -/
theorem verdict_of_isSuccess {s : CallStatus} (hs : s.isSuccess codes = true) :
    verdict codes (.present s) response = .ok response := by
  simp [verdict, violation?, CallStatus.toFault, StatusField.status?, hs]

/-- Any other status is conveyed. -/
theorem exists_conveys_of_verdict (hbuilt : codes.Built) (response : RawResponse) {s : CallStatus}
    (hs : s.isSuccess codes = false) :
    ∃ f, verdict codes (.present s) response = .error f ∧ Conveys codes s response f := by
  refine ⟨.withResponse (Fault.pushFrame codes (codes.site .verdictReports)
    (Fault.ofStack codes s.code s.description s.stack)) response, ?_, conveys_ofStack hbuilt s⟩
  simp [verdict, violation?, CallStatus.toFault, StatusField.status?, hs]

/-- Where there is no status, that is a violation. -/
theorem exists_violation_of_verdict (hbuilt : codes.Built) (response : RawResponse)
    {field : StatusField} (hfield : ∀ s, field ≠ .present s) :
    ∃ f, verdict codes field response = .error f ∧ Violation response f := by
  cases field with
  | present s => exact absurd rfl (hfield s)
  | absent | null | invalid => exact ⟨_, rfl, violation_wrap hbuilt _⟩

/-- The verdict on a field passes the response, conveys its status or finds a violation. -/
theorem concur_self (hbuilt : codes.Built) (field : StatusField) :
    Concur codes response (verdict codes field response) (verdict codes field response) := by
  cases field with
  | present s =>
    cases hs : s.isSuccess codes with
    | true =>
      rw [verdict_of_isSuccess hs]
      exact .passes
    | false =>
      obtain ⟨f, hf, hconveys⟩ := exists_conveys_of_verdict hbuilt response hs
      rw [hf]
      exact .conveyed hs hconveys
  | absent | null | invalid => exact .violated (violation_wrap hbuilt _) (violation_wrap hbuilt _)

/-- What an envelope shows and what its body shows come to the same verdict. -/
theorem concur_of_decode {α : Type} [Payload α] (hbuilt : codes.Built) {reply e : Envelope α}
    {entries : List (String × Json)} (hvalue : Json.parse? response.body = some (.object entries))
    (hpascal : ((Json.object entries).get? StatusField.pascalKey).isSome →
      ((Json.object entries).get? StatusField.key).isSome)
    (hdecode : Reply.decode? reply response.body = some e) :
    Concur codes response (verdict codes (Reply.statusField e) response)
      (verdict codes (fieldOfBody response.body) response) := by
  have hbody : fieldOfBody response.body = StatusField.ofJson (.object entries) := by
    rw [fieldOfBody, hvalue]
  rw [hbody]
  rcases Envelope.shows_of_decode hvalue hpascal hdecode with hsame | ⟨habsent, hnull⟩
  · rw [hsame]
    exact concur_self hbuilt _
  · rw [habsent, hnull]
    exact .violated (violation_wrap hbuilt _) (violation_wrap hbuilt _)

end StatusVerdict

namespace Client

open StatusVerdict (Concur)

variable {R : Resumption} {c : Client} {options' : List CallOption}

/-- The options of a call and others by which the decoding of the reply is put off, and no more. -/
def PutsOff (c : Client) (options options' : List CallOption) : Prop :=
  CallInfo.ofOptions (c.optionsOf options') =
    { CallInfo.ofOptions (c.optionsOf options) with responseNotParse := true }

theorem putsOff_append (c : Client) (options : List CallOption) :
    c.PutsOff options (options ++ [.responseNotParse]) := by
  rw [PutsOff, ofOptions_optionsOf_append, optionsOf, CallInfo.ofOptions_combine]
  rfl

section

variable {ρ : Type} {q : Inquiry ρ}

theorem PutsOff.runsThrough {bs : List Builtin} (h : c.PutsOff q.options options')
    (hchain : c.RunsThrough q.options bs) : c.RunsThrough options' bs := by
  rw [RunsThrough, ← hchain, chainFor, chainFor, h]

theorem PutsOff.fetches_iff (h : c.PutsOff q.options options') {w v : World} {response : RawResponse} :
    Fetches R c { q with options := options' } w response v ↔ Fetches R c q w response v := by
  have hsibling : (c.begin q).Sibling (c.begin { q with options := options' }) :=
    ⟨⟨_, rfl⟩, true, _, h⟩
  rw [Fetches, Fetches, Exchange.ends_fetch_iff hsibling]
  exact (and_iff_right rfl).symm

end

variable {α : Type} [Payload α] {q : Inquiry (Envelope α)}

/-- A call through the verdict comes to the same verdict whether the envelope is decoded or its decoding is put
off, on every response whose body is an object that the envelope decodes from.  In the one case the caller's
envelope is the decoded one, in the other it is as it was. -/
theorem invoke_views_agree (hchain : c.RunsThrough q.options [.statusVerdict])
    (hskip : Skipper.any c.skippers q.method q.target = false)
    (hparse : (CallInfo.ofOptions (c.optionsOf q.options)).responseNotParse = false)
    (hputsOff : c.PutsOff q.options options') (hbuilt : c.settings.codes.Built)
    {reply : Envelope α} (hreply : q.reply = some reply) (R : Resumption) (w : World) :
    ∀ (response : RawResponse) (entries : List (String × Json)) (e : Envelope α),
      Json.parse? response.body = some (.object entries) →
      (((Json.object entries).get? StatusField.pascalKey).isSome →
        ((Json.object entries).get? StatusField.key).isSome) →
      Reply.decode? reply response.body = some e →
      ∃ typed raw, Concur c.settings.codes response typed raw ∧
        ∀ (o : Except Panic CallResult) (r : Option (Envelope α)) (v : World),
          carried? o = some response →
          (EndsWith R c q w o r v ↔ Fetches R c q w response v ∧ o = .ok typed ∧ r = some e) ∧
          (EndsWith R c { q with options := options' } w o r v ↔
            Fetches R c q w response v ∧ o = .ok raw ∧ r = some reply) := by
  intro response entries e hvalue hpascal hdecode
  refine ⟨_, _, StatusVerdict.concur_of_decode hbuilt hvalue hpascal hdecode, fun o r v hcarried => ⟨?_, ?_⟩⟩
  · exact endsWith_reply_iff hchain hskip hparse hreply hdecode hcarried
  · have hparse' : (c.begin { q with options := options' }).info.responseNotParse = true :=
      congrArg CallInfo.responseNotParse hputsOff
    have hkept : (c.begin { q with options := options' }).reply.value? = some reply := by
      show (ReplySlot.ofOption q.reply).value? = some reply
      rw [hreply]
      rfl
    rw [endsWith_deferred_iff (q := { q with options := options' }) (hputsOff.runsThrough hchain) hskip
      hparse' hcarried, hputsOff.fetches_iff, hkept]

/-- An order in an envelope, whose status is an array that breaks off after the history. -/
def orderBody : Bytes :=
  Bytes.ofText "\x7b\"data\":\x7b\"id\":7\x7d,\"callStatus\":[300001,\x7b\"en\":\"Out of stock.\"\x7d,[\"stock\"]]\x7d"

def orderInquiry : Inquiry (Envelope Order) :=
  ⟨.ofToken ⟨[0]⟩, "GET", "/v1/orders", .empty, some .empty, [.stages ["callstatus"]]⟩

/-- A call for an order whose status reports a failure, with and without its envelope decoded. -/
theorem invoke_views_agree_order :
    let c := scripted (.answering fun _ => return .ok (.new 200 orderBody)) []
    ∃ (response : RawResponse) (e : Envelope Order) (typed raw : CallResult) (v : World),
      response.body = orderBody ∧ Concur c.settings.codes response typed raw ∧
      EndsWith Work.alone c orderInquiry .initial (.ok typed) (some e) v ∧
      EndsWith Work.alone c { orderInquiry with options := [.stages ["callstatus"], .responseNotParse] }
        .initial (.ok raw) (some .empty) v := by
  intro c
  have hrun : ∃ (response : RawResponse) (w : World),
      ((Exchange.fetch orderInquiry.context).run.run.run (c.begin orderInquiry)).run .initial =
        some ((.ok (.ok response), c.begin orderInquiry), w) ∧ response.body = orderBody :=
    ⟨_, _, rfl, rfl⟩
  obtain ⟨response, w, hrun, hbody⟩ := hrun
  have hfetches : Fetches Work.alone c orderInquiry .initial response w.quiet :=
    ⟨w, rfl, Work.run_eq_some_iff.mp hrun⟩
  -- The body is an object with a status, and an envelope is decoded from it.
  have hobject : ∃ entries, Json.parse? orderBody = some (.object entries) ∧
      ((Json.object entries).get? StatusField.key).isSome = true := by
    have hslot : ((Json.parse? orderBody).bind (Json.get? StatusField.key)).isSome = true := by
      decide +kernel
    obtain ⟨slot, hslot⟩ := Option.isSome_iff_exists.mp hslot
    obtain ⟨value, hvalue, hget⟩ := Option.bind_eq_some_iff.mp hslot
    cases value with
    | object entries => exact ⟨entries, hvalue, by rw [hget]; rfl⟩
    | null | bool | int | double | string | array => cases hget
  have hdecodes : (Reply.decode? (Envelope.empty : Envelope Order) orderBody).isSome = true := by
    decide +kernel
  obtain ⟨entries, hvalue, hkey⟩ := hobject
  obtain ⟨e, hdecode⟩ := Option.isSome_iff_exists.mp hdecodes
  rw [← hbody] at hvalue hdecode
  obtain ⟨typed, raw, hconcur, hends⟩ := invoke_views_agree (c := c) (q := orderInquiry)
    (runsThrough_stages c [] [.statusVerdict]) rfl rfl (putsOff_append c _) (.new _) rfl Work.alone
    .initial response entries e hvalue (fun _ => hkey) hdecode
  have hcarried : carried? (.ok typed) = some response ∧ carried? (.ok raw) = some response := by
    cases hconcur with
    | passes => exact ⟨rfl, rfl⟩
    | conveyed _ hf => exact ⟨hf.response, hf.response⟩
    | violated hf hg => exact ⟨hf.response, hg.response⟩
  exact ⟨response, e, typed, raw, w.quiet, hbody, hconcur,
    (hends _ _ _ hcarried.1).1.mpr ⟨hfetches, rfl, rfl⟩,
    (hends _ _ _ hcarried.2).2.mpr ⟨hfetches, rfl, rfl⟩⟩

end Client

end CallChain
