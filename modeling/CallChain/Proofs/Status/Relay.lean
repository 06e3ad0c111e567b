import CallChain.Proofs.Client.Verdict
import CallChain.Proofs.Fault.Registry
import CallChain.Proofs.Status.WireForm
import Mathlib.Data.List.Chain

/-!
# Faults relayed from service to service

A service answers with the status of a fault, another calls it through the verdict and so fails with a
fault of its own, whose status it may answer with in turn.  `Answers` describes one such hop up to the
response, `Relays` the fault that came of it, and `Relay` any number of hops one after the other.

What one hop does to a fault is said once, by `Continues`: the description stays, one frame is added, and
the code stays where the receiver knows it and becomes unknown where not.  `Answers.failsWith` and
`continues_continued` establish it for a hop, and `Relay.isChain` for all hops of a relay; the history at
its end is read off from there.  The messages of the sender travel along, but nothing depends on them.
Any list of services has such a relay through it (`Relay.exists_relay`).
-/

set_option autoImplicit false

namespace CallChain

open Call (Ends)
open Client (EndsWith Fetches)
open Json (Held document)
open StatusVerdict (fieldOfBody verdict)

/-- What a fault needs to be reported as one: a code of 64 bits other than that of success. -/
structure Fault.Travels (e : Fault) : Prop where
  bounds : int64Bounds.1 ≤ e.code ∧ e.code ≤ int64Bounds.2
  fails : e.code ≠ Codes.success

/-- The entries of an object that reports a fault.  Its status stands under its key, with any messages;
under other keys there may be any data that a document can hold, which nests no deeper than readers go. -/
structure Reports (sender : CodeRegistry) (e : Fault) (entries : List (String × Json)) : Prop where
  keys : (entries.map Prod.fst).Nodup
  status : ∃ v messages, (StatusField.key, v) ∈ entries ∧
    CallStatus.Writes { CallStatus.ofFault sender (some e) with message := messages } v
  data : ∀ entry ∈ entries, entry.1 ≠ StatusField.key → Held (Json.greatestDepth - 1) entry.2

/-- The types of replies that an object with given entries decodes into and that look for the status
under its key. -/
inductive Receives (entries : List (String × Json)) : (ρ : Type) → [Reply ρ] → Prop where
  | value : Receives entries Json
  | envelope {α : Type} [Payload α]
      (hdata : ∀ data, ("data", data) ∈ entries →
        (Json.Reader.orNull (Payload.reader : Json.Reader α) (Json.greatestDepth - 1)
          (document data)).isSome = true) :
      Receives entries (Envelope α)
  | boxed {ρ : Type} [Reply ρ] (h : Receives entries ρ) : Receives entries (Boxed ρ)

/-- A client calls through the verdict, and is answered with a body that reports a fault.  Its reply
receives the body, unless there is none or its decoding is put off. -/
structure Answers (sender : CodeRegistry) (e : Fault) {ρ : Type} [Reply ρ] (c : Client)
    (q : Inquiry ρ) (response : RawResponse) : Prop where
  chain : c.RunsThrough q.options [.statusVerdict]
  unskipped : Skipper.any c.skippers q.method q.target = false
  body : ∃ entries, response.body = Json.write (.object entries) ∧ Reports sender e entries ∧
    (q.reply = none ∨ (c.begin q).info.responseNotParse = true ∨ Receives entries ρ)

/-- The failure of a call that a response came back for. -/
def failure (e : Fault) (response : RawResponse) : Except Panic CallResult :=
  .ok (.error (.withResponse e response))

/-- Where a response was fetched for a call, the call fails with a fault. -/
structure FailsWith (R : Resumption) {ρ : Type} [Reply ρ] (c : Client) (q : Inquiry ρ) (w : World)
    (response : RawResponse) (e : Fault) : Prop where
  /-- An outcome with the response is this failure. -/
  only : ∀ o r v, EndsWith R c q w o r v → carried? o = some response → o = failure e response
  /-- Once the response is there, the call comes to its end. -/
  ends : ∀ v, Fetches R c q w response v → ∃ r, EndsWith R c q w (failure e response) r v
  /-- If nothing but the response can be fetched, the call cannot end otherwise. -/
  always : (∀ d : Departure ρ CallResult, Ends R (Exchange.fetch q.context).run (c.begin q) w d →
      carried? d.outcome = some response) →
    ∀ o r v, EndsWith R c q w o r v → o = failure e response

/-- What a fault is once a service has passed it on.  HTTP status and messages are those that the service
has for the code. -/
structure Continues (e : Fault) (receiver : CodeRegistry) (e' : Fault) : Prop where
  description : e'.description = e.description
  code : e'.code = if receiver.isRegistered e.code = true then e.code else Codes.unknown
  coder : e'.coder = receiver.lookup e'.code
  stack : e'.stack = e.stack ++ [receiver.stamp .verdictReports e'.code]

/-- The fault that a service makes of one that was reported to it. -/
def continued (receiver : CodeRegistry) (e : Fault) : Fault :=
  Fault.pushFrame receiver (receiver.site .verdictReports)
    (Fault.ofStack receiver e.code e.description e.stack)

/-- A call of one service, answered by another with a fault, has failed with a fault. -/
def Relays (sender : CodeRegistry) (e : Fault) (receiver : CodeRegistry) (e' : Fault) : Prop :=
  ∃ (ρ : Type) (_ : Reply ρ) (R : Resumption) (c : Client) (q : Inquiry ρ) (w v : World)
    (response : RawResponse) (r : Option ρ),
    c.settings.codes = receiver ∧ Answers sender e c q response ∧
      EndsWith R c q w (failure e' response) r v

/-- A fault on its way through services, each with the fault it failed with.  The last two arguments are
the service it has reached and what it is there. -/
inductive Relay : CodeRegistry → Fault → List (CodeRegistry × Fault) → CodeRegistry → Fault → Prop where
  | nil {r : CodeRegistry} {e : Fault} : Relay r e [] r e
  | cons {r r' last : CodeRegistry} {e e' e'' : Fault} {hops : List (CodeRegistry × Fault)}
      (hop : Relays r e r' e') (onward : Relay r' e' hops last e'') :
      Relay r e ((r', e') :: hops) last e''

/-- The history of a fault at the end of a relay. -/
structure KeepsHistory (first : CodeRegistry) (e : Fault) (hops : List (CodeRegistry × Fault))
    (last : CodeRegistry) (e' : Fault) : Prop where
  chain : ((first, e) :: hops).IsChain fun a b => Continues a.2 b.1 b.2
  description : ∀ s ∈ hops, s.2.description = e.description
  stack : e'.stack = e.stack ++ hops.map fun s => s.1.stamp .verdictReports s.2.code
  fails : ∀ s ∈ hops, s.2.code ≠ Codes.success
  unknown : ((first, e) :: hops).Pairwise fun a b =>
    a.2.code = Codes.unknown → b.2.code = Codes.unknown
  /-- Whoever is answered with the fault fails with what continues it. -/
  onward : ∀ (R : Resumption) {ρ : Type} [Reply ρ] (c : Client) (q : Inquiry ρ) (w : World)
    (response : RawResponse), Answers last e' c q response → c.settings.codes.Built →
    ∃ e'', Continues e' c.settings.codes e'' ∧ FailsWith R c q w response e''

/-! ## The status of a fault -/

namespace CallStatus

theorem isSuccess_iff {r : CodeRegistry} {s : CallStatus} :
    s.isSuccess r = true ↔ s.code = Codes.success :=
  beq_iff_eq

theorem ofFault_some (sender : CodeRegistry) (e : Fault) :
    ofFault sender (some e) =
      ⟨e.code, e.coder.messages, if e.code = Codes.success then [] else e.stack, e.description⟩ := by
  unfold ofFault
  simp only [isSuccess_iff]
  split <;> rfl

/-- The status of a fault has no history where it has the code of success. -/
theorem stack_ofFault {sender : CodeRegistry} {e? : Option Fault}
    (h : (ofFault sender e?).code = Codes.success) : (ofFault sender e?).stack = [] := by
  cases e? with
  | none => rfl
  | some e =>
    rw [ofFault_some] at h ⊢
    exact if_pos h

end CallStatus

/-! ## One hop -/

theorem Receives.shows {entries : List (String × Json)} {ρ : Type} [Reply ρ] {s : CallStatus}
    {v : Json} (h : Receives entries ρ) (hkeys : (entries.map Prod.fst).Nodup)
    (hheld : Held Json.greatestDepth (.object entries)) (hcode : s.HasInt64Code) (hv : s.Writes v)
    (hslot : (StatusField.key, v) ∈ entries) : Shows ρ (Json.write (.object entries)) s := by
  induction h with
  | value =>
    apply CallStatus.shows_json hkeys hheld hcode hv
    rw [(SortedMap.lookupIn_eq_some_iff hkeys).mpr hslot]
    rfl
  | envelope hdata => exact CallStatus.shows_envelope hkeys hheld hcode hv hslot hdata
  | boxed _ ih =>
    intro reply
    obtain ⟨inner, hdecode, hfield⟩ := ih reply.inner
    refine ⟨⟨inner⟩, ?_, hfield⟩
    show (Reply.decode? reply.inner _).map Boxed.mk = _
    rw [hdecode]
    rfl

section

variable {ρ : Type} [Reply ρ] {R : Resumption} {sender : CodeRegistry} {e : Fault} {c : Client}
  {q : Inquiry ρ} {response : RawResponse}

/-- What is reported of a fault that is none of success: all of it but the messages. -/
theorem Reports.exists_writes {entries : List (String × Json)} (h : Reports sender e entries)
    (he : e.Travels) : ∃ v messages, (StatusField.key, v) ∈ entries ∧
      CallStatus.Writes ⟨e.code, messages, e.stack, e.description⟩ v := by
  obtain ⟨v, messages, hslot, hv⟩ := h.status
  rw [CallStatus.ofFault_some, if_neg he.fails] at hv
  exact ⟨v, messages, hslot, hv⟩

/-- The object that reports a fault is a document, its status included. -/
theorem Reports.held {entries : List (String × Json)} (h : Reports sender e entries)
    (he : e.Travels) : Held Json.greatestDepth (.object entries) := by
  obtain ⟨v, messages, hslot, hv⟩ := h.exists_writes he
  have hcode : CallStatus.HasInt64Code ⟨e.code, messages, e.stack, e.description⟩ := he.bounds
  refine @Held.object 126 _ fun entry hentry => ?_
  by_cases hkey : entry.1 = StatusField.key
  · have hvalue : SortedMap.lookupIn StatusField.key entries = some entry.2 := by
      rw [← hkey]
      exact (SortedMap.lookupIn_eq_some_iff h.keys).mpr hentry
    rw [(SortedMap.lookupIn_eq_some_iff h.keys).mpr hslot] at hvalue
    rw [← Option.some.inj hvalue]
    exact hv.held 124 hcode
  · exact h.data entry hentry hkey

/-- What a call through the verdict ends with where the reply and the body show a status. -/
theorem exists_endsWith_iff {s : CallStatus} (hchain : c.RunsThrough q.options [.statusVerdict])
    (hskip : Skipper.any c.skippers q.method q.target = false)
    (hbody : fieldOfBody response.body = .present s)
    (hreply : q.reply = none ∨ (c.begin q).info.responseNotParse = true ∨ Shows ρ response.body s)
    {w v : World} {o : Except Panic CallResult} (hcarried : carried? o = some response) :
    (∃ r, EndsWith R c q w o r v) ↔
      Fetches R c q w response v ∧ o = .ok (verdict c.settings.codes (.present s) response) := by
  -- the verdict reads the body where there is no reply or decoding is put off, and else the reply
  cases hq : q.reply with
  | none =>
    simp only [Client.endsWith_body_iff hchain hskip hq hcarried, hbody, exists_and_left, exists_eq,
      and_true]
  | some reply =>
    by_cases hparse : (c.begin q).info.responseNotParse = true
    · simp only [Client.endsWith_deferred_iff hchain hskip hparse hcarried, hbody, exists_and_left,
        exists_eq, and_true]
    rw [Bool.not_eq_true] at hparse
    have hshows : Shows ρ response.body s := by
      obtain hnone | hput | hshows := hreply
      · rw [hq] at hnone
        cases hnone
      · rw [hparse] at hput
        cases hput
      · exact hshows
    obtain ⟨reply', hdecode, hfield⟩ := hshows reply
    simp only [Client.endsWith_reply_iff hchain hskip hparse hq hdecode hcarried, hfield,
      exists_and_left, exists_eq, and_true]

/-- A service that is answered with a fault fails with the fault it continues. -/
theorem Answers.failsWith (h : Answers sender e c q response) (he : e.Travels) (w : World) :
    FailsWith R c q w response (continued c.settings.codes e) := by
  obtain ⟨entries, hbody, hreports, hreply⟩ := h.body
  obtain ⟨v, messages, hslot, hv⟩ := hreports.exists_writes he
  have hheld := hreports.held he
  -- the messages are part of this status, and of nothing that is made of it
  let s : CallStatus := ⟨e.code, messages, e.stack, e.description⟩
  have hcode : s.HasInt64Code := he.bounds
  have hverdict : Except.ok (verdict c.settings.codes (.present s) response) =
      failure (continued c.settings.codes e) response := by
    have hfails : s.isSuccess c.settings.codes ≠ true := fun h =>
      he.fails (CallStatus.isSuccess_iff.mp h)
    simp [verdict, StatusVerdict.violation?, StatusField.status?, CallStatus.toFault, hfails,
      failure, continued, s]
  have hfield : fieldOfBody response.body = .present s := by
    obtain ⟨value, hdecode, hpresent⟩ :=
      Receives.value.shows hreports.keys hheld hcode hv hslot .null
    rw [hbody, ← Client.statusField_of_decode_json hdecode, hpresent]
  have hends (v : World) (o : Except Panic CallResult) (hcarried : carried? o = some response) :
      (∃ r, EndsWith R c q w o r v) ↔
        Fetches R c q w response v ∧ o = failure (continued c.settings.codes e) response := by
    rw [← hverdict]
    refine exists_endsWith_iff h.chain h.unskipped hfield ?_ hcarried
    rw [hbody]
    exact hreply.imp_right (Or.imp_right fun hreceives =>
      hreceives.shows hreports.keys hheld hcode hv hslot)
  have honly (o : Except Panic CallResult) (r : Option ρ) (v : World) (ho : EndsWith R c q w o r v)
      (hcarried : carried? o = some response) :
      o = failure (continued c.settings.codes e) response :=
    ((hends v o hcarried).mp ⟨r, ho⟩).2
  refine ⟨honly, fun v hfetches => (hends v _ rfl).mpr ⟨hfetches, rfl⟩, ?_⟩
  intro hall o r v ho
  obtain ⟨d, hd, hcarried⟩ := Client.exists_fetch_of_endsWith h.chain h.unskipped ho
  exact honly o r v ho (hcarried.symm.trans (hall d hd))

end

theorem continues_continued {receiver : CodeRegistry} (hbuilt : receiver.Built) (e : Fault) :
    Continues e receiver (continued receiver e) := by
  exact ⟨rfl, hbuilt.code_lookup e.code, (hbuilt.lookup_code_lookup e.code).symm, rfl⟩

/-- What continues a fault can be reported in turn. -/
theorem Continues.travels {receiver : CodeRegistry} {e e' : Fault} (h : Continues e receiver e')
    (he : e.Travels) : e'.Travels := by
  have hcode := h.code
  split at hcode
  · exact ⟨by rw [hcode]; exact he.bounds, by rw [hcode]; exact he.fails⟩
  · exact ⟨by rw [hcode]; decide, by rw [hcode]; decide⟩

theorem Relays.continues {sender receiver : CodeRegistry} {e e' : Fault}
    (h : Relays sender e receiver e') (he : e.Travels) (hbuilt : receiver.Built) :
    Continues e receiver e' := by
  obtain ⟨ρ, _, R, c, q, w, v, response, r, rfl, hanswers, hends⟩ := h
  have heq : failure e' response = failure (continued c.settings.codes e) response :=
    (hanswers.failsWith he w).only _ r v hends rfl
  cases heq
  exact continues_continued hbuilt e

/-- A client of a service with its own codes, which another service answers with a body. -/
def answered (receiver : CodeRegistry) (body : Bytes) : Client :=
  let c := Client.scripted (.answering fun _ => return .ok (.new 200 body)) []
  { c with settings := { c.settings with codes := receiver } }

/-- A call through the verdict that asks for no reply. -/
def bareInquiry : Inquiry Json :=
  ⟨.ofToken ⟨[0]⟩, "GET", "/v1/orders", .empty, none, [.stages ["callstatus"]]⟩

theorem fetches_answered (receiver : CodeRegistry) (body : Bytes) :
    ∃ response v, Fetches Work.alone (answered receiver body) bareInquiry .initial response v ∧
      response.body = body := by
  have hrun : ∃ (response : RawResponse) (w : World),
      ((Exchange.fetch bareInquiry.context).run.run.run
        ((answered receiver body).begin bareInquiry)).run .initial =
        some ((.ok (.ok response), (answered receiver body).begin bareInquiry), w) ∧
      response.body = body :=
    ⟨_, _, rfl, rfl⟩
  obtain ⟨response, w, hrun, hbody⟩ := hrun
  exact ⟨response, w.quiet, ⟨w, rfl, Work.run_eq_some_iff.mp hrun⟩, hbody⟩

/-- Every service can report every fault to every other. -/
theorem relays_continued (sender receiver : CodeRegistry) {e : Fault} (he : e.Travels) :
    Relays sender e receiver (continued receiver e) := by
  let s := CallStatus.ofFault sender (some e)
  let entries := [(StatusField.key, s.toJson)]
  obtain ⟨response, v, hfetches, hbody⟩ :=
    fetches_answered receiver (Json.write (.object entries))
  have hreports : Reports sender e entries := by
    refine ⟨List.pairwise_singleton _ _, ⟨s.toJson, s.message, List.mem_singleton_self _, s.writes_toJson⟩, ?_⟩
    intro entry hentry hkey
    rw [List.mem_singleton.mp hentry] at hkey
    exact absurd rfl hkey
  have hanswers : Answers sender e (answered receiver (Json.write (.object entries))) bareInquiry
      response :=
    ⟨Client.runsThrough_stages _ [] [.statusVerdict], rfl, entries, hbody, hreports, Or.inl rfl⟩
  obtain ⟨r, hends⟩ := (hanswers.failsWith he .initial).ends v hfetches
  exact ⟨Json, _, _, _, _, _, v, response, r, rfl, hanswers, hends⟩

/-! ## Any number of hops -/

namespace Relay

variable {first last : CodeRegistry} {e e' : Fault} {hops : List (CodeRegistry × Fault)}

/-- Every service of a relay continues the fault of the one before, and the relay can go on. -/
theorem isChain (h : Relay first e hops last e') (he : e.Travels) (hbuilt : ∀ s ∈ hops, s.1.Built) :
    ((first, e) :: hops).IsChain (fun a b => Continues a.2 b.1 b.2) ∧ e'.Travels := by
  -- that the fault can be reported again is what carries the induction over the hops
  induction h with
  | nil => exact ⟨List.isChain_singleton _, he⟩
  | cons hop _ ih =>
    have hcontinues := hop.continues he (hbuilt _ List.mem_cons_self)
    obtain ⟨hchain, he'⟩ := ih (hcontinues.travels he) fun s hs =>
      hbuilt s (List.mem_cons_of_mem _ hs)
    exact ⟨List.isChain_cons_cons.mpr ⟨hcontinues, hchain⟩, he'⟩

/-- The frames of the services follow the frames the fault had at first. -/
theorem stack_eq (h : Relay first e hops last e')
    (hchain : ((first, e) :: hops).IsChain fun a b => Continues a.2 b.1 b.2) :
    e'.stack = e.stack ++ hops.map fun s => s.1.stamp .verdictReports s.2.code := by
  induction h with
  | nil => rw [List.map_nil, List.append_nil]
  | cons _ _ ih =>
    obtain ⟨hcontinues, hrest⟩ := List.isChain_cons_cons.mp hchain
    rw [ih hrest, hcontinues.stack, List.map_cons, List.append_assoc]
    rfl

/-- What holds between a fault and the one that continues it, holds from each service to all that follow,
if it can be passed on. -/
theorem pairwise_of_continues {P : Fault → Fault → Prop}
    (hstep : ∀ {a b : Fault} {r : CodeRegistry}, Continues a r b → P a b)
    (htrans : ∀ {a b c : Fault}, P a b → P b c → P a c)
    (hchain : ((first, e) :: hops).IsChain fun a b => Continues a.2 b.1 b.2) :
    ((first, e) :: hops).Pairwise fun a b => P a.2 b.2 := by
  let Q (a b : CodeRegistry × Fault) : Prop := P a.2 b.2
  have : Trans Q Q Q := ⟨fun hab hbc => htrans hab hbc⟩
  exact List.isChain_iff_pairwise.mp (hchain.imp fun _ _ h => hstep h)

theorem description_eq (hchain : ((first, e) :: hops).IsChain fun a b => Continues a.2 b.1 b.2) :
    ∀ s ∈ hops, s.2.description = e.description := by
  have hpairs := pairwise_of_continues (P := fun a b => b.description = a.description)
    (fun h => h.description) (fun hab hbc => hbc.trans hab) hchain
  exact (List.pairwise_cons.mp hpairs).1

theorem code_ne_success (he : e.Travels)
    (hchain : ((first, e) :: hops).IsChain fun a b => Continues a.2 b.1 b.2) :
    ∀ s ∈ hops, s.2.code ≠ Codes.success := by
  have hpairs := pairwise_of_continues (P := fun a b => a.Travels → b.Travels)
    (fun h ha => h.travels ha) (fun hab hbc ha => hbc (hab ha)) hchain
  intro s hs
  exact ((List.pairwise_cons.mp hpairs).1 s hs he).fails

/-- A code that was once unknown stays so. -/
theorem pairwise_unknown
    (hchain : ((first, e) :: hops).IsChain fun a b => Continues a.2 b.1 b.2) :
    ((first, e) :: hops).Pairwise fun a b =>
      a.2.code = Codes.unknown → b.2.code = Codes.unknown := by
  apply pairwise_of_continues (P := fun a b => a.code = Codes.unknown → b.code = Codes.unknown) _
    (fun hab hbc ha => hbc (hab ha)) hchain
  intro a b r h ha
  rw [h.code, ha, ite_self]

/-- There is a relay through any list of services. -/
theorem exists_relay (services : List CodeRegistry) (first : CodeRegistry) {e : Fault}
    (he : e.Travels) (hbuilt : ∀ r ∈ services, r.Built) :
    ∃ hops last e', Relay first e hops last e' ∧ hops.map Prod.fst = services := by
  induction services generalizing first e with
  | nil => exact ⟨[], first, e, .nil, rfl⟩
  | cons r services ih =>
    have hcontinues : Continues e r (continued r e) :=
      continues_continued (hbuilt r List.mem_cons_self) e
    obtain ⟨hops, last, e', honward, hservices⟩ := ih r (hcontinues.travels he) fun r' hr' =>
      hbuilt r' (List.mem_cons_of_mem _ hr')
    refine ⟨(r, continued r e) :: hops, last, e', .cons (relays_continued first r he) honward, ?_⟩
    rw [List.map_cons, hservices]

/-- A fault that is relayed through any number of services keeps its whole history.  A status never has
the code of success together with a history, so no history is lost for success either. -/
theorem keeps_history (h : Relay first e hops last e') (he : e.Travels)
    (hbuilt : ∀ s ∈ hops, s.1.Built) :
    KeepsHistory first e hops last e' ∧
    ∀ r : CodeRegistry,
      (∀ e? : Option Fault, (CallStatus.ofFault r e?).code = Codes.success →
        (CallStatus.ofFault r e?).stack = []) ∧
      ∀ (α : Type) (result : Except Fault α), (CallStatus.ofResult r result).code = Codes.success →
        (CallStatus.ofResult r result).stack = [] := by
  obtain ⟨hchain, he'⟩ := h.isChain he hbuilt
  refine ⟨⟨hchain, description_eq hchain, h.stack_eq hchain, code_ne_success he hchain,
    pairwise_unknown hchain, ?_⟩, fun r => ⟨fun e? => CallStatus.stack_ofFault, ?_⟩⟩
  · intro R ρ _ c q w response hanswers hknown
    exact ⟨_, continues_continued hknown e', hanswers.failsWith he' w⟩
  · intro α result
    cases result with
    | ok a => exact CallStatus.stack_ofFault
    | error f => exact CallStatus.stack_ofFault

/-- A code that only some services know. -/
def outOfStock : FaultCode := .withMessages 300001 409 "Out of stock." "库存不足"

/-- A service that knows the base table only. -/
def plainService (module : String) : CodeRegistry := .new ⟨"localhost", 1, module, .oneFile "library"⟩

/-- A service that knows one code more. -/
def stockService (module : String) : CodeRegistry :=
  { plainService module with codes := (plainService module).codes.insert 300001 outOfStock }

theorem built_stockService (module : String) : (stockService module).Built :=
  .register (c := outOfStock) (.new ⟨"localhost", 1, module, .oneFile "library"⟩) rfl

/-- Where the inventory says that an article is out of stock. -/
def takenAt : CallSite := ⟨"src/inventory.rs", 12, "inventory::take"⟩

/-- Through a service that knows its code, and one that does not. -/
theorem keeps_history_outOfStock :
    ∃ e₁ e₂, KeepsHistory (stockService "inventory")
        (Fault.wrap (stockService "inventory") takenAt 300001 "sku \"12\"")
        [(stockService "orders", e₁), (plainService "web", e₂)] (plainService "web") e₂ ∧
      e₁.code = 300001 ∧ e₂.code = Codes.unknown ∧ e₂.stack.length = 3 := by
  have he : (Fault.wrap (stockService "inventory") takenAt 300001 "sku \"12\"").Travels :=
    ⟨by decide, by decide⟩
  have hknown := built_stockService "orders"
  have he₁ := (continues_continued hknown _).travels he
  have hbuilt : ∀ r ∈ [stockService "orders", plainService "web"], r.Built := by
    simp only [List.forall_mem_cons]
    exact ⟨hknown, .new _, by simp⟩
  have hrelay := Relay.cons (relays_continued (stockService "inventory") (stockService "orders") he)
    (.cons (relays_continued (stockService "orders") (plainService "web") he₁) .nil)
  obtain ⟨hkeeps, -⟩ := hrelay.keeps_history he fun s hs =>
    hbuilt s.1 (List.mem_map.mpr ⟨s, hs, rfl⟩)
  exact ⟨_, _, hkeeps, by decide, by decide, rfl⟩

end Relay

end CallChain
