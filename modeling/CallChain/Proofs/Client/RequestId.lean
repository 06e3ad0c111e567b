import CallChain.Proofs.Chain.RequestId
import CallChain.Proofs.Client.Reordering
import CallChain.Proofs.Client.Resolved
import CallChain.Proofs.Client.Response

/-!
# The request id of a call

A call through a stage that sets the request id has one id (`RequestId.idOf`): that of its context, or else
one that is drawn for it.  `invoke_identified` says where it shows: in the header of the request, alone; in
what was drawn, once at most; and in the context of everything inside the outermost such stage.
-/

set_option autoImplicit false

namespace CallChain

open Call (Ends)

variable {ρ : Type} [Reply ρ] {R : Resumption}

namespace Client

/-- What the request id of a call is, and where it shows. -/
structure Identified (R : Resumption) (c : Client) (catalog : Catalog) (ctx : CallContext)
    (method target : String) (body : RequestBody) (reply : Option ρ) (options : List CallOption)
    (fs : List Fitted) (w : World) (id : String) : Prop where
  /-- It is the id of the context, or else the next of the source. -/
  chosen : id = ctx.requestId.getD w.nextId
  /-- An id that is drawn from a sound source is new. -/
  fresh : ctx.requestId = none → RequestId.Sound w.idSource w.idsDrawn → id ∉ w.ids
  /-- It has the form of a random UUID. -/
  shaped : ctx.requestId = none → RequestId.Sound w.idSource w.idsDrawn → RequestId.hasForm id = true
  /-- Whatever the call ends with, it took a trip through the stages that act. -/
  trips : ∀ o reply' w',
    Work.Ends R (c.invoke catalog ctx method target body reply options) w (o, reply') w' →
      ∃ t i', Chain.Trip R [] (Fitted.acting fs method target)
        (c.entranceOf catalog ctx method target body reply options w) t ⟨o, i', w'.quiet⟩
  /-- The request of a trip has the id and nothing else in its header, in whatever spelling one asks. -/
  carries : ∀ t d, Chain.Trip R [] (Fitted.acting fs method target)
      (c.entranceOf catalog ctx method target body reply options w) (some t) d →
    ∀ key, Text.sameIgnoringCase key RequestId.header = true →
      t.prepared.request.headers.getAll key = [id]
  /-- If the options bring no other spellings in, the header stands there once. -/
  single : (∀ o ∈ c.optionsOf options, o.Filed) →
    ∀ t d, Chain.Trip R [] (Fitted.acting fs method target)
      (c.entranceOf catalog ctx method target body reply options w) (some t) d →
    t.prepared.request.headers.entries.entries.filter
      (fun e => Text.sameIgnoringCase e.1 RequestId.header) = [(RequestId.header, [id])]
  /-- The transport receives one request at most, with the id and nothing else in its header. -/
  handed : c.settings.connector.HandsOver → (CallInfo.ofOptions (c.optionsOf options)).Silent →
    (∀ g v v₁, R g v v₁ → v₁.requests = v.requests) →
    ∀ r w', Work.Ends R (c.invoke catalog ctx method target body reply options) w r w' →
      ∃ qs, w'.requests = w.requests ++ qs ∧ qs.length ≤ 1 ∧
        ∀ q ∈ qs, ∀ key, Text.sameIgnoringCase key RequestId.header = true →
          q.headers.getAll key = [id]
  /-- The call draws the id if a stage that sets it is passed and the context has none, and no other. -/
  drawn : c.settings.connector.DrawsNone →
    (CallInfo.ofOptions (c.optionsOf options)).Keeps (fun v v' => v'.ids = v.ids) →
    (∀ g v v₁, R g v v₁ → v₁.ids = v.ids) →
    ∀ r w', Work.Ends R (c.invoke catalog ctx method target body reply options) w r w' →
      w'.ids = w.ids ++
        if .requestId ∈ Chain.passed [] (Fitted.acting fs method target)
            (c.invocationOf method target body reply options) ∧ ctx.requestId = none then [id]
        else []
  /-- Inside the outermost stage that sets it, whatever the chain goes on with finds the id in its context. -/
  sees : ∀ before, before <+: fs → .requestId ∈ Fitted.acting before method target →
    (∀ b ∈ Fitted.acting before method target,
      ¬ b.Refuses (c.invocationOf method target body reply options)) →
    ∃ y : Entrance ρ, y.context.requestId = some id ∧
      ∀ rest center d, Ends R (Chain.run (before.map Fitted.stage ++ rest) center ctx)
          (c.invocationOf method target body reply options) (c.warned catalog options w) d ↔
        ∃ e, Ends R (Chain.run rest center y.context) y.invocation y.world e ∧
          d = Builtin.leaveAll (Fitted.acting before method target) c.settings.codes e

variable {c : Client} {catalog : Catalog} {ctx : CallContext} {method target : String}
  {body : RequestBody} {reply : Option ρ} {options : List CallOption} {fs : List Fitted} {w : World}

omit [Reply ρ] in
theorem nextId_warned : (c.warned catalog options w).nextId = w.nextId :=
  (congrArg World.nextId (quiet_warned c catalog options w) :)

omit [Reply ρ] in
theorem requestId_entranceOf :
    (c.entranceOf catalog ctx method target body reply options w).requestId = RequestId.idOf ctx w := by
  show ctx.requestId.getD (c.warned catalog options w).nextId = _
  rw [nextId_warned]
  rfl

/-- Every call through a stage that sets the request id and without a processor has one request id. -/
theorem invoke_identified (hresolves : c.Resolves catalog options fs)
    (hmem : .requestId ∈ Fitted.acting fs method target)
    (hprocess : (CallInfo.ofOptions (c.optionsOf options)).process = none) :
    Identified R c catalog ctx method target body reply options fs w (RequestId.idOf ctx w) := by
  have htrips (o : Except Panic CallResult) (reply' : Option ρ) (w' : World)
      (h : Work.Ends R (c.invoke catalog ctx method target body reply options) w (o, reply') w') :
      ∃ t i', Chain.Trip R [] (Fitted.acting fs method target)
        (c.entranceOf catalog ctx method target body reply options w) t ⟨o, i', w'.quiet⟩ := by
    obtain ⟨i', hends, -⟩ := (ends_invoke_acting_iff hresolves).mp ⟨w', h, rfl⟩
    obtain ⟨t, htrip⟩ := Chain.endsFrom_iff_trip.mp hends
    exact ⟨t, i', htrip⟩
  have hcarries (t : Exchange.Transfer) (d : Departure ρ CallResult)
      (htrip : Chain.Trip R [] (Fitted.acting fs method target)
        (c.entranceOf catalog ctx method target body reply options w) (some t) d) (key : String)
      (hkey : Text.sameIgnoringCase key RequestId.header = true) :
      t.prepared.request.headers.getAll key = [RequestId.idOf ctx w] := by
    rw [← requestId_entranceOf]
    exact htrip.getAll_request hprocess rfl hmem hkey
  constructor
  case chosen => rfl
  case fresh =>
    intro hnone hsound
    rw [RequestId.idOf, hnone]
    exact World.nextId_not_mem_ids hsound
  case shaped =>
    intro hnone hsound
    rw [RequestId.idOf, hnone]
    exact hsound.shaped w.idsDrawn (Nat.le_refl _)
  case trips => exact htrips
  case carries => exact hcarries
  case single =>
    intro hfiled t d htrip
    have hheaders := htrip.filed_request hprocess (CallInfo.filed_ofOptions hfiled)
    exact ValueMap.filter_eq_singleton hheaders
      (hcarries t d htrip RequestId.header (beq_self_eq_true _)) (List.cons_ne_nil _ _)
  case handed =>
    rintro hconnector hinfo hR ⟨o, reply'⟩ w' h
    obtain ⟨t, i', htrip⟩ := htrips o reply' w' h
    have hkeeps := Builtin.keeps_enterAll (r := fun v v' => v'.requests = v.requests)
      (x := c.entranceOf catalog ctx method target body reply options w)
      ⟨hinfo.resolver, hinfo.process⟩
      (Chain.passed [] (Fitted.acting fs method target)
        (c.invocationOf method target body reply options))
    have hwatches := watches_requests (by rw [Builtin.invocation_enterAll]; exact hconnector)
      ⟨hkeeps.resolver, hkeeps.process⟩
    obtain ⟨qs, hqs, hbegins⟩ := htrip.requests_eq hwatches hR
    refine ⟨qs, ?_, ?_, fun q hq => ?_⟩
    · rw [← World.requests_quiet w', hqs]
      exact congrArg (· ++ qs) (requests_warned c catalog options w)
    · exact hbegins.length_le.trans (by cases t <;> simp)
    · obtain ⟨t, rfl, rfl⟩ := Option.map_eq_some_iff.mp (Option.mem_toList.mp (hbegins.subset hq))
      exact hcarries t _ htrip
  case drawn =>
    rintro hconnector hkeeps hR ⟨o, reply'⟩ w' h
    obtain ⟨t, i', htrip⟩ := htrips o reply' w' h
    have hids := htrip.ids_eq hconnector hkeeps hR
    rw [requestId_entranceOf] at hids
    have hwarned : (c.warned catalog options w).ids = w.ids :=
      (congrArg World.ids (quiet_warned c catalog options w) :)
    rw [← hwarned]
    exact hids
  case sees =>
    intro before _ hbefore hpasses
    let x := c.entranceOf catalog ctx method target body reply options w
    refine ⟨Builtin.enterAll (Fitted.acting before method target) x, ?_, fun rest center d => ?_⟩
    · rw [Builtin.requestId_enterAll hbefore x, requestId_entranceOf]
    · exact Chain.ends_fitted_iff (x := x) before ⟨rfl, rfl⟩ hpasses

/-- Options about the header in other spellings, and a stage that sets it on either side of the access log. -/
theorem invoke_identified_twice :
    let bs : List Builtin := [.requestId, .accessLog, .requestId]
    let c := (scripted .ok bs).withOptions [.setHeader "X-Request-ID" ["a", "b"]]
    let options : List CallOption := [.addHeader "x-REQUEST-id" ["c"]]
    c.Resolves .standard options (bs.map fun b => ⟨b, []⟩) ∧
      .requestId ∈ Fitted.acting (bs.map fun b => ⟨b, []⟩) "GET" "/" ∧
      (CallInfo.ofOptions (c.optionsOf options)).process = none ∧
      Identified Work.alone c .standard (.ofToken ⟨[0]⟩) "GET" "/" .empty (some Json.null) options
        (bs.map fun b => ⟨b, []⟩) .initial "00000000-0000-4000-8000-000000000000" ∧
      RequestId.hasForm "00000000-0000-4000-8000-000000000000" = true ∧
      ∀ r w', Work.Ends Work.alone
          (c.invoke .standard (.ofToken ⟨[0]⟩) "GET" "/" .empty (some Json.null) options) .initial r w' →
        w'.ids = ["00000000-0000-4000-8000-000000000000"] ∧ w'.requests.length ≤ 1 ∧
          ∀ q ∈ w'.requests, q.headers.getAll "X-Request-Id" = ["00000000-0000-4000-8000-000000000000"] := by
  intro bs c options
  have hchain : c.HasChain .standard options bs := Catalog.chainOf_names bs []
  have hmem : .requestId ∈ Fitted.acting (bs.map fun b => ⟨b, []⟩) "GET" "/" := by
    rw [Fitted.acting_map bs rfl]
    exact List.mem_cons_self
  have hprocess : (CallInfo.ofOptions (c.optionsOf options)).process = none := rfl
  have hidentified : Identified Work.alone c .standard (.ofToken ⟨[0]⟩) "GET" "/" .empty
      (some Json.null) options (bs.map fun b => ⟨b, []⟩) .initial "00000000-0000-4000-8000-000000000000" :=
    invoke_identified hchain.resolves hmem hprocess
  have hshaped := hidentified.shaped rfl (RequestId.sound_ofNumber (by decide))
  refine ⟨hchain.resolves, hmem, hprocess, hidentified, hshaped, fun r w' h => ⟨?_, ?_⟩⟩
  · have hconnector : c.settings.connector.DrawsNone := ScriptedRemote.drawsNone fun _ => rfl
    rw [hidentified.drawn hconnector ⟨fun _ h => (by cases h), fun _ h => (by cases h)⟩
      World.ids_alone r w' h, Fitted.acting_map bs rfl]
    rfl
  · obtain ⟨qs, hqs, hlength, hcarries⟩ := hidentified.handed (ScriptedRemote.handsOver fun _ => rfl)
      ⟨fun _ h => (by cases h), fun _ h => (by cases h)⟩ Work.requests_alone r w' h
    have hrequests : w'.requests = qs := hqs
    rw [hrequests]
    exact ⟨hlength, fun q hq => hcarries q hq "X-Request-Id" (by decide)⟩

end Client

end CallChain
