import CallChain.Proofs.Exchange.Step
import CallChain.Proofs.Work.Trace

/-!
# What an exchange comes to

Each part of the exchange has one lemma here, about everything it can come to: what it leaves for an
observer of the requests, its value, and its failure.  Failures are those that the exchange made itself,
those that a resolver or a request processor returned, and that of a body that does not decode; `Raises`
lists them with the histories they begin with.  A response tells of the request that was handed over as
far as `Describes` says.  `traces_run` puts the parts together.
-/

set_option autoImplicit false

namespace CallChain

/-- The frame that the library adds at one of its places to a failure with a code. -/
def CodeRegistry.frame (codes : CodeRegistry) (code : Int) (place : Place) : Frame :=
  Frame.capture codes.service code (codes.site place)

/-- That frame as it stands in a history. -/
def CodeRegistry.stamp (codes : CodeRegistry) (place : Place) (code : Int) : String :=
  (codes.frame code place).render

/-- A number is known from its digits. -/
theorem toString_nat_injective : Function.Injective (toString : Nat → String) := by
  intro m n h
  have hdigits : Nat.toDigits 10 m = Nat.toDigits 10 n := by
    have htext : m.repr = n.repr := h
    rwa [Nat.repr_eq_ofList_toDigits, Nat.repr_eq_ofList_toDigits, String.ofList_inj] at htext
  rw [← @Nat.ofDigitChars_ten_toDigits m, hdigits, Nat.ofDigitChars_ten_toDigits]

/-- A frame tells its place. -/
theorem CodeRegistry.frame_injective (codes : CodeRegistry) (code : Int) :
    Function.Injective (codes.frame code) := by
  intro p q h
  have hfile : Text.shortPath (codes.site p).file = Text.shortPath (codes.site q).file :=
    congrArg Frame.file h
  have hline : toString (codes.site p).line = toString (codes.site q).line := congrArg Frame.line h
  exact codes.service.sites.distinct p q hfile (toString_nat_injective hline)

/-- Whether a closure of the caller hands over no request itself. -/
def Action.Silent {α ε : Type} (obs : World → List ε) (a : Action α) : Prop :=
  ∀ w, obs (a w).2 = obs w

namespace Exchange

variable {ρ α β ε : Type}

/-- The code of what an exchange finds wrong itself at one of its places. -/
def ownCode? : Place → Option Int
  | .queryFails | .connectionLate | .sendFails => some Codes.httpError
  | .dialFails => some Codes.clientGenerate
  | _ => none

/-- The failures of an exchange, each with the history it had before the exchange stamped it and the
place where it did. -/
inductive Raises (codes : CodeRegistry) (info : CallInfo) :
    List String → Place → CallFailure → Prop where
  /-- The exchange found something wrong itself. -/
  | made {place : Place} {code : Int} (description : String) (h : ownCode? place = some code) :
      Raises codes info [] place (.new (Fault.wrap codes (codes.site place) code description))
  /-- The response does not decode into the reply. -/
  | undecodable (description : String) (response : RawResponse) :
      Raises codes info [] .decodeFails
        (.withResponse
          (Fault.wrap codes (codes.site .decodeFails) Codes.responseParse description) response)
  /-- The resolver of the URL returned a fault. -/
  | unresolved {resolver : Action String} {f : Fault} {w w' : World}
      (hinfo : info.url = some resolver) (hf : resolver w = (.ok (.error f), w')) :
      Raises codes info f.stack .resolverFails
        (.new (Fault.pushFrame codes (codes.site .resolverFails) f))
  /-- The request processor returned a fault. -/
  | unprocessed {process : TransportRequest → Action TransportRequest} {q : TransportRequest}
      {f : Fault} {w w' : World}
      (hinfo : info.process = some process) (hf : process q w = (.ok (.error f), w')) :
      Raises codes info f.stack .processorFails
        (.new (Fault.pushFrame codes (codes.site .processorFails) f))

/-- Whether a failure belongs to the exchange of an invocation. -/
def Raised (i : Invocation ρ) (e : CallFailure) : Prop :=
  ∃ given place, Raises i.codes i.info given place e

/-- Whether a failure belongs to the part of an exchange before the response. -/
def Unanswered (i : Invocation ρ) (e : CallFailure) : Prop := Raised i e ∧ e.response = none

/-- Whether a request is what the options make of a draft. -/
def Processes (info : CallInfo) (draft q : TransportRequest) : Prop :=
  match info.process with
  | none => q = draft
  | some process => ∃ w w', process draft w = (.ok (.ok q), w')

/-- The request of an invocation before the options process it. -/
def draftOf (i : Invocation ρ) (url : String) (limit : Option Duration) : TransportRequest :=
  ⟨i.method, url, headersFor i.info.headers i.body.bytes?, i.body.bytes?, limit⟩

/-- Whether a prepared request is what the options make of the draft of an invocation. -/
def Prepares (i : Invocation ρ) (p : Prepared) : Prop :=
  Processes i.info (draftOf i p.url p.limit) p.request

/-- What a response tells of the request it answers: an observer saw one request handed over; the
headers are those of the request; and the URL is that of the draft the request was made from. -/
def Describes (sent : TransportRequest → List ε) (i : Invocation ρ) (xs : List ε)
    (response : RawResponse) : Prop :=
  ∃ (q : TransportRequest) (limit : Option Duration), xs = sent q ∧
    response.requestHeaders = q.headers ∧ Processes i.info (draftOf i response.requestUrl limit) q

/-- Whether an observer of the requests sees exactly what the connection of an invocation is handed. -/
structure Watches (obs : World → List ε) (sent : TransportRequest → List ε) (i : Invocation ρ) :
    Prop where
  /-- Nothing but the requests matters to the observer. -/
  requests : ∀ w w', w.requests = w'.requests → obs w = obs w'
  /-- Dialing hands over nothing. -/
  connect : ∀ address tls, (i.client.connector.connect address tls).run.Traces obs fun xs _ => xs = []
  /-- Sending hands over the request. -/
  send : ∀ c q, (i.client.connector.send c q).run.Traces obs fun xs _ => xs = sent q
  /-- The resolver hands over nothing. -/
  resolver : ∀ resolver, i.info.url = some resolver → Action.Silent obs resolver
  /-- The request processor hands over nothing. -/
  process : ∀ process, i.info.process = some process → ∀ q, Action.Silent obs (process q)

/-- Whoever sees nothing sees nothing of any connection. -/
theorem watches_nothing (i : Invocation ρ) :
    Watches (fun _ => ([] : List ε)) (fun _ => []) i where
  requests _ _ _ := rfl
  connect _ _ := Work.Traces.trivial _
  send _ _ := Work.Traces.trivial _
  resolver _ _ _ := rfl
  process _ _ _ _ := rfl

/-- A failure or a panic of a part of the exchange is one of the whole. -/
theorem traces_bind {obs : World → List ε} {i : Invocation ρ} {s : Step ρ α} {k : α → Step ρ β}
    {P : List ε → Except Panic (Except CallFailure α) × Invocation ρ → Prop}
    {Q : List ε → Except Panic (Except CallFailure β) × Invocation ρ → Prop}
    (hs : (s.run.run.run i).Traces obs P)
    (hvalue : ∀ xs a j, P xs (.ok (.ok a), j) →
      ((k a).run.run.run j).Traces obs fun ys r => Q (xs ++ ys) r)
    (hfailure : ∀ xs e j, P xs (.ok (.error e), j) → Q xs (.ok (.error e), j))
    (hpanic : ∀ xs p j, P xs (.error p, j) → Q xs (.error p, j)) :
    ((s >>= k).run.run.run i).Traces obs Q := by
  rw [work_bind]
  refine Work.Traces.bind hs fun xs r hr => ?_
  obtain ⟨p | e | a, j⟩ := r
  · show Q (xs ++ []) (.error p, j)
    rw [List.append_nil]
    exact hpanic xs p j hr
  · show Q (xs ++ []) (.ok (.error e), j)
    rw [List.append_nil]
    exact hfailure xs e j hr
  · exact hvalue xs a j hr

namespace Step

/-- Whether an outcome is of a kind: its value, or its failure.  A panic is of every kind. -/
def Allowed (P : α → Prop) (F : CallFailure → Prop) : Except Panic (Except CallFailure α) → Prop
  | .ok (.ok a) => P a
  | .ok (.error e) => F e
  | .error _ => True

/-- A part of the exchange leaves the invocation alone, and what it adds to what is observed, its
values and its failures are of a kind. -/
def Traces (obs : World → List ε) (s : Step ρ α) (i : Invocation ρ) (P : List ε → α → Prop)
    (F : CallFailure → Prop) : Prop :=
  (s.run.run.run i).Traces obs fun xs r => r.2 = i ∧ Allowed (P xs) F r.1

namespace Traces

variable {obs : World → List ε} {i : Invocation ρ} {P : List ε → α → Prop}
  {Q : List ε → β → Prop} {F : CallFailure → Prop}

theorem pure {a : α} (ha : P [] a) : Traces obs (Pure.pure a : Step ρ α) i P F := ⟨rfl, ha⟩

theorem throw {e : CallFailure} (he : F e) :
    Traces obs (MonadExcept.throw e : Step ρ α) i P F :=
  ⟨rfl, he⟩

/-- What follows a part of the exchange begins on the same invocation. -/
theorem bind {s : Step ρ α} {k : α → Step ρ β} (hs : Traces obs s i P F)
    (hk : ∀ xs a, P xs a → Traces obs (k a) i (fun ys b => Q (xs ++ ys) b) F) :
    Traces obs (s >>= k) i Q F := by
  refine traces_bind hs (fun xs a j h => ?_) (fun xs e j h => h) fun xs p j h => ⟨h.1, trivial⟩
  obtain ⟨rfl, ha⟩ := h
  exact hk xs a ha

/-- A part of the exchange that the observer does not see. -/
theorem bind_unseen {P : α → Prop} {s : Step ρ α} {k : α → Step ρ β}
    (hs : Traces obs s i (fun xs a => xs = [] ∧ P a) F) (hk : ∀ a, P a → Traces obs (k a) i Q F) :
    Traces obs (s >>= k) i Q F := by
  refine hs.bind fun xs a h => ?_
  obtain ⟨rfl, ha⟩ := h
  exact hk a ha

/-- The invocation is at hand where it is asked for. -/
theorem get_bind {k : Invocation ρ → Step ρ β} (hk : Traces obs (k i) i Q F) :
    Traces obs (MonadState.get >>= k) i Q F :=
  bind_unseen (s := MonadState.get) (P := (· = i)) ⟨rfl, rfl, rfl⟩ fun _ h => h ▸ hk

/-- Work outside the invocation cannot fail the call. -/
theorem lift {t : Attempt α} (ht : t.run.Traces obs fun xs r => ∀ a, r = .ok a → P xs a) :
    Traces obs (Exchange.lift t : Step ρ α) i P F := by
  rw [Traces, work_lift]
  refine Work.Traces.bind ht fun xs r hr => ⟨rfl, ?_⟩
  cases r with
  | error p => trivial
  | ok a =>
    show P (xs ++ []) a
    rw [List.append_nil]
    exact hr a rfl

end Traces

end Step

section

variable {obs : World → List ε} {sent : TransportRequest → List ε} {i : Invocation ρ}
  {Q : List ε → β → Prop} {F : CallFailure → Prop}

/-- A change of the world that hands over nothing. -/
theorem Watches.unseen (hw : Watches obs sent i) {f : World → World} {next : World → Work α}
    {P : List ε → α → Prop} (hf : ∀ w, (f w).requests = w.requests)
    (hnext : ∀ w, (next w).Traces obs P) : (Work.act f next).Traces obs P :=
  Work.Traces.unseen (fun w => hw.requests _ _ (hf w)) hnext

theorem Watches.holding (hw : Watches obs sent i) {writing : Bool} {p : Work α}
    {P : List ε → α → Prop} (hp : p.Traces obs P) : (Work.holding writing p).Traces obs P :=
  hw.unseen (fun _ => rfl) fun _ =>
    ⟨fun _ => hw.requests _ _ rfl, hp.guarded fun _ => hw.requests _ _ rfl⟩

/-- Work that was not given up is what it was. -/
theorem traces_outcome {p : Work (Option (Except Panic α))} {P : List ε → Except Panic α → Prop}
    (hp : p.Traces obs fun xs o => ∀ r, o = some r → P xs r) :
    (p.bind fun o => .done (Attempt.outcome o)).Traces obs fun xs r =>
      ∀ a, r = .ok (some a) → P xs (.ok a) := by
  refine hp.bind fun xs o ho => ?_
  rintro a ha
  rw [List.append_nil]
  obtain _ | _ | b := o
  · cases ha
  · cases ha
  · cases ha
    exact ho _ rfl

theorem Watches.unlessBefore (hw : Watches obs sent i) {stop : Guard} {t : Attempt α}
    {P : List ε → Except Panic α → Prop} (ht : t.run.Traces obs P) :
    (Attempt.unlessBefore stop t).run.Traces obs fun xs r =>
      ∀ a, r = .ok (some a) → P xs (.ok a) := by
  refine traces_outcome (hw.unseen (fun _ => rfl) fun w => ?_)
  split
  · exact fun _ h => by cases h
  · exact ht.interruptedBy

theorem Watches.within (hw : Watches obs sent i) {limit : Option Duration} {t : Attempt α}
    {P : List ε → Except Panic α → Prop} (ht : t.run.Traces obs P) :
    (Attempt.within limit t).run.Traces obs fun xs r =>
      ∀ a, r = .ok (some a) → P xs (.ok a) := by
  cases limit with
  | some d => exact traces_outcome (hw.unseen (fun _ => rfl) fun _ => ht.limitedTo)
  | none =>
    refine ht.bind fun xs r hr => ?_
    cases r with
    | error p => exact fun a ha => by cases ha
    | ok b =>
      rintro a ha
      cases ha
      rwa [List.append_nil]

theorem Watches.log_bind (hw : Watches obs sent i) {ctx : CallContext} {level : Level}
    {message : String} {fields : LogFields} {k : Unit → Step ρ β}
    (hk : Step.Traces obs (k ()) i Q F) :
    Step.Traces obs (log ctx level message fields >>= k) i Q F := by
  refine Step.Traces.bind_unseen (P := fun _ => True) (Step.Traces.lift ?_) fun _ _ => hk
  exact hw.unseen (World.requests_record fun _ h => by cases h) fun _ _ _ => ⟨rfl, trivial⟩

theorem look_bind {k : World → Step ρ β} (hk : ∀ w, Step.Traces obs (k w) i Q F) :
    Step.Traces obs (lift Work.look >>= k) i Q F := by
  refine Step.Traces.bind_unseen (P := fun _ => True) (Step.Traces.lift ?_) fun w _ => hk w
  exact Work.Traces.unseen (fun _ => rfl) fun _ _ _ => ⟨rfl, trivial⟩

/-- An action of the caller that hands over nothing. -/
theorem traces_ofAction {place : Place} {a : Action α} (ha : Action.Silent obs a) :
    Step.Traces obs (ofAction place a : Step ρ (Except Fault α)) i
      (fun xs r => xs = [] ∧ match r with
        | .ok b => ∃ w w', a w = (.ok (.ok b), w')
        | .error f' => ∃ f w w', a w = (.ok (.error f), w') ∧
            f' = Fault.pushFrame i.codes (i.codes.site place) f) F := by
  refine Step.Traces.get_bind ?_
  have hlift : Step.Traces obs (lift (Attempt.ofAction a) : Step ρ (Except Fault α)) i
      (fun xs r => xs = [] ∧ ∃ w w', a w = (.ok r, w')) F := by
    refine Step.Traces.lift fun w => ⟨[], ?_, fun r hr => ⟨rfl, w, (a w).2, Prod.ext hr rfl⟩⟩
    rw [ha w, List.append_nil]
  refine hlift.bind_unseen fun r hr => ?_
  obtain ⟨w, w', h⟩ := hr
  cases r with
  | ok b => exact Step.Traces.pure ⟨rfl, w, w', h⟩
  | error f => exact Step.Traces.pure ⟨rfl, f, w, w', h, rfl⟩

theorem unanswered_wrap {place : Place} {code : Int} (h : ownCode? place = some code)
    (description : String) :
    Unanswered i (.new (Fault.wrap i.codes (i.codes.site place) code description)) :=
  ⟨⟨[], place, .made description h⟩, rfl⟩

theorem traces_withQuery (hw : Watches obs sent i) (ctx : CallContext) (info : CallInfo)
    (plain : String) : Step.Traces obs (withQuery ctx info plain) i (fun xs _ => xs = [] ∧ True)
      (Unanswered i) := by
  refine Step.Traces.get_bind ?_
  cases info.query.addTo plain with
  | ok url => exact Step.Traces.pure ⟨rfl, trivial⟩
  | error reason => exact hw.log_bind (Step.Traces.throw (unanswered_wrap rfl _))

theorem traces_urlOf (hw : Watches obs sent i) (ctx : CallContext) (address : String) :
    Step.Traces obs (urlOf ctx i.info address) i (fun xs _ => xs = [] ∧ True) (Unanswered i) := by
  refine Step.Traces.get_bind ?_
  dsimp only
  cases hurl : i.info.url with
  | none => exact traces_withQuery hw ctx i.info _
  | some resolver =>
    refine (traces_ofAction (hw.resolver resolver hurl)).bind_unseen fun r hr => ?_
    cases r with
    | ok url => exact traces_withQuery hw ctx i.info url
    | error f' =>
      obtain ⟨f, w, w', hf, rfl⟩ := hr
      have hraised : Unanswered i (.new (Fault.pushFrame i.codes (i.codes.site .resolverFails) f)) :=
        ⟨⟨_, _, .unresolved hurl hf⟩, rfl⟩
      exact hw.log_bind (Step.Traces.bind_unseen (P := fun _ => True) (Step.Traces.throw hraised)
        fun plain _ => traces_withQuery hw ctx i.info plain)

theorem traces_prepare (hw : Watches obs sent i) (ctx : CallContext) :
    Step.Traces obs (prepare ctx : Step ρ Prepared) i (fun xs p => xs = [] ∧ Prepares i p)
      (Unanswered i) := by
  refine Step.Traces.get_bind ?_
  refine (traces_urlOf hw ctx _).bind_unseen fun url _ => ?_
  refine look_bind fun world => ?_
  dsimp only
  cases hprocess : i.info.process with
  | none =>
    refine Step.Traces.pure ⟨rfl, ?_⟩
    simp only [Prepares, Processes, hprocess]
    rfl
  | some process =>
    refine (traces_ofAction (hw.process process hprocess _)).bind_unseen fun r hr => ?_
    cases r with
    | ok request =>
      refine Step.Traces.pure ⟨rfl, ?_⟩
      simp only [Prepares, Processes, hprocess]
      exact hr
    | error f' =>
      obtain ⟨f, w, w', hf, rfl⟩ := hr
      exact Step.Traces.throw ⟨⟨_, _, .unprocessed hprocess hf⟩, rfl⟩

/-- A connection that cannot be had is the fault of a dial, made with the codes of the client. -/
def Accounted (codes : CodeRegistry) (xs : List ε) (r : Except Panic (Except Fault ConnectionId)) :
    Prop :=
  xs = [] ∧ ∀ f, r = .ok (.error f) →
    ∃ description, f = Fault.wrap codes (codes.site .dialFails) Codes.clientGenerate description

theorem accounted_ok (codes : CodeRegistry) (c : ConnectionId) :
    Accounted codes ([] : List ε) (.ok (.ok c)) :=
  ⟨rfl, fun _ h => by cases h⟩

theorem traces_dial (hw : Watches obs sent i) (span : Option LogFields) :
    (i.client.toDialer.dial span).run.Traces obs (Accounted i.codes) := by
  refine Work.Traces.attempt_bind (P := fun xs _ => xs = [])
    (hw.unseen (World.requests_record fun _ h => by cases h) fun _ => rfl) ?_
  rintro _ _ rfl
  refine Work.Traces.attempt_bind (P := fun xs _ => xs = [])
    ((hw.connect _ _).mono fun xs r hxs => ?_) ?_
  · cases r with
    | ok r => exact hxs
    | error p => exact ⟨hxs, fun _ h => by cases h⟩
  · rintro _ r rfl
    cases r with
    | ok c => exact hw.unseen (fun _ => rfl) fun _ => accounted_ok _ c
    | error e =>
      refine hw.unseen (World.requests_record fun _ h => by cases h) fun _ => ⟨rfl, fun f hf => ?_⟩
      cases hf
      exact ⟨_, rfl⟩

/-- Taking the connection hands over nothing. -/
theorem traces_get (hw : Watches obs sent i) (span : Option LogFields) :
    (i.client.toDialer.get span).run.Traces obs (Accounted i.codes) := by
  have hkept : Dialer.kept.Traces obs fun xs _ => xs = [] :=
    hw.holding (hw.unseen (fun _ => rfl) fun _ => rfl)
  refine Work.Traces.attempt_bind (P := fun xs _ => xs = [])
    (hkept.bind fun xs kept h => ?_) ?_
  · subst h
    rfl
  · rintro _ kept rfl
    cases kept with
    | some c => exact accounted_ok _ c
    | none =>
      refine hw.holding (Work.Traces.attempt_bind (P := fun xs _ => xs = [])
        (hw.unseen (fun _ => rfl) fun _ => rfl) ?_)
      rintro _ world rfl
      cases world.connection with
      | some c => exact accounted_ok _ c
      | none => exact traces_dial hw span

theorem traces_connect (hw : Watches obs sent i) (ctx : CallContext) (url : String) :
    Step.Traces obs (connect ctx url : Step ρ ConnectionId) i (fun xs _ => xs = [] ∧ True)
      (Unanswered i) := by
  refine Step.Traces.get_bind ?_
  refine (Step.Traces.lift (P := fun xs r => ∀ b, r = some b → Accounted i.codes xs (.ok b))
    ((hw.unlessBefore (traces_get hw ctx.span)).mono
      fun xs r h a ha b hb => h b (by rw [ha, hb]))).bind fun xs r hr => ?_
  obtain _ | f | c := r
  · exact look_bind fun world => hw.log_bind (Step.Traces.throw (unanswered_wrap rfl _))
  · obtain ⟨-, hf⟩ := hr _ rfl
    obtain ⟨description, rfl⟩ := hf f rfl
    exact hw.log_bind (Step.Traces.throw (unanswered_wrap rfl _))
  · obtain ⟨rfl, -⟩ := hr _ rfl
    exact Step.Traces.pure ⟨rfl, trivial⟩

/-- A response is there only if the request was handed over. -/
theorem traces_sendUnlessDone (hw : Watches obs sent i) (ctx : CallContext) (c : ConnectionId)
    (limit : Option Duration) (q : TransportRequest) :
    (sendUnlessDone ctx i.client.connector c limit q).run.Traces obs fun xs r =>
      ∀ t, r = .ok (.ok t) → xs = sent q := by
  refine Work.Traces.attempt_bind (P := fun xs r => ∀ t, r = some (some t) → xs = sent q)
    ((hw.unlessBefore (hw.within (hw.send c q))).mono fun xs r h => ?_) fun xs r hr => ?_
  · cases r with
    | ok r => exact fun t ht => h _ (by rw [ht]) t rfl
    | error p => exact fun t ht => by cases ht
  · obtain _ | _ | outcome := r
    · refine hw.unseen (fun _ => rfl) fun world t ht => by cases ht
    · exact fun t ht => by cases ht
    · intro t ht
      rw [List.append_nil]
      exact hr _ rfl

theorem traces_send (hw : Watches obs sent i) (ctx : CallContext) (c : ConnectionId)
    (p : Prepared) :
    Step.Traces obs (send ctx c p : Step ρ RawResponse) i
      (fun xs response => xs = sent p.request ∧ response.requestUrl = p.url ∧
        response.requestHeaders = p.request.headers) (Unanswered i) := by
  refine Step.Traces.get_bind ?_
  refine (Step.Traces.lift (P := fun xs r => ∀ t, r = .ok t → xs = sent p.request)
    ((traces_sendUnlessDone hw ctx c p.limit p.request).mono fun xs r h a ha t ht =>
      h t (by rw [ha, ht]))).bind fun xs r hr => ?_
  cases r with
  | ok t =>
    refine Step.Traces.pure ⟨?_, rfl, rfl⟩
    rw [hr t rfl, List.append_nil]
  | error e => exact hw.log_bind (Step.Traces.throw (unanswered_wrap rfl _))

/-- Decoding a response leaves the client alone, and fails with the response. -/
theorem traces_decodeReply [Reply ρ] (hw : Watches obs sent i) (ctx : CallContext)
    (response : RawResponse) :
    ((decodeReply .decodeFails ctx response : Step ρ Unit).run.run.run i).Traces obs fun xs r =>
      xs = [] ∧ r.2.client = i.client ∧
        ∀ e, r.1 = .ok (.error e) → Raised i e ∧ e.response = some response := by
  refine traces_bind (P := fun xs r => xs = [] ∧ r = (.ok (.ok i), i)) ⟨rfl, rfl⟩ ?_
    (fun _ _ _ h => by cases h.2) (fun _ _ _ h => by cases h.2)
  rintro _ _ _ ⟨rfl, ⟨⟩⟩
  cases i.reply.seen? with
  | none => exact ⟨rfl, rfl, fun _ h => by cases h⟩
  | some reply =>
    dsimp only
    cases Reply.decode? reply response.body with
    | some decoded => exact ⟨rfl, rfl, fun _ h => by cases h⟩
    | none =>
      refine hw.unseen (World.requests_record fun _ h => by cases h) fun _ => ⟨rfl, rfl, ?_⟩
      rintro _ ⟨⟩
      exact ⟨⟨[], .decodeFails, .undecodable _ response⟩, rfl⟩

/-- What every exchange comes to. -/
structure Concluded (sent : TransportRequest → List ε) (i : Invocation ρ) (xs : List ε)
    (r : Except Panic CallResult × Invocation ρ) : Prop where
  /-- The client is the same. -/
  client : r.2.client = i.client
  /-- Without decoding the reply is the same. -/
  reply : i.info.responseNotParse = true → r.2.reply = i.reply
  /-- A failure can be accounted for. -/
  raised : ∀ e, r.1 = .ok (.error e) → Raised i e
  /-- A response tells of the request. -/
  describes : ∀ response, carried? r.1 = some response → Describes sent i xs response

theorem concluded_panic (xs : List ε) (p : Panic) {j : Invocation ρ} (h : j.client = i.client)
    (hreply : i.info.responseNotParse = true → j.reply = i.reply) :
    Concluded sent i xs (.error p, j) where
  client := h
  reply := hreply
  raised _ he := by cases he
  describes _ hr := by cases hr

theorem concluded_unanswered (xs : List ε) {e : CallFailure} (he : Unanswered i e) :
    Concluded sent i xs (.ok (.error e), i) where
  client := rfl
  reply _ := rfl
  raised _ h := by
    cases h
    exact he.1
  describes response hr := by
    have hresponse : e.response = some response := hr
    rw [he.2] at hresponse
    cases hresponse

theorem concluded_response {xs : List ε} {response : RawResponse} {j : Invocation ρ}
    {r : CallResult} (hclient : j.client = i.client)
    (hreply : i.info.responseNotParse = true → j.reply = i.reply)
    (hdescribes : Describes sent i xs response)
    (hcarried : carried? (.ok r) = some response) (hfailure : ∀ e, r = .error e → Raised i e) :
    Concluded sent i xs (.ok r, j) where
  client := hclient
  reply := hreply
  raised e he := hfailure e (Except.ok.inj he)
  describes t ht := by
    rw [hcarried] at ht
    cases ht
    exact hdescribes

/-- What follows a part of the exchange before the response. -/
theorem followed {s : Step ρ α} {k : α → Step ρ RawResponse} {P : List ε → α → Prop}
    (xs : List ε) (hs : Step.Traces obs s i P (Unanswered i))
    (hk : ∀ ys a, P ys a →
      ((k a).run.run.run i).Traces obs fun zs r => Concluded sent i (xs ++ ys ++ zs) r) :
    ((s >>= k).run.run.run i).Traces obs fun ys r => Concluded sent i (xs ++ ys) r := by
  refine traces_bind hs ?_ ?_ ?_
  · rintro ys a j ⟨rfl, ha⟩
    simp only [← List.append_assoc]
    exact hk ys a ha
  · rintro ys e j ⟨rfl, he⟩
    exact concluded_unanswered _ he
  · rintro ys p j ⟨rfl, -⟩
    exact concluded_panic _ p rfl fun _ => rfl

/-- The exchange keeps the client, fails in one of the ways listed, and says what it sent. -/
theorem traces_run [Reply ρ] (hw : Watches obs sent i) (ctx : CallContext) :
    ((run ctx : Call ρ CallResult).run.run i).Traces obs (Concluded sent i) := by
  refine followed [] (traces_prepare hw ctx) ?_
  rintro _ prepared ⟨rfl, hprepared⟩
  refine followed _ (s := get) (P := fun ys j => ys = [] ∧ i = j) ⟨rfl, rfl, rfl⟩ ?_
  rintro _ _ ⟨rfl, rfl⟩
  refine followed _ (traces_connect hw ctx prepared.url) ?_
  rintro _ c ⟨rfl, -⟩
  refine followed _ (traces_send hw ctx c prepared) ?_
  rintro _ response ⟨rfl, hurl, hheaders⟩
  have hdescribes : Describes sent i (sent prepared.request) response :=
    ⟨prepared.request, prepared.limit, rfl, hheaders, by rw [hurl]; exact hprepared⟩
  dsimp only
  split
  next hparse =>
    have hreply (j : Invocation ρ) (h : i.info.responseNotParse = true) : j.reply = i.reply := by
      rw [h] at hparse
      cases hparse
    refine traces_bind (traces_decodeReply hw ctx response) ?_ ?_ ?_
    · rintro _ _ j ⟨rfl, hclient, -⟩
      exact concluded_response hclient (hreply j) (by simpa using hdescribes) rfl fun _ h => by cases h
    · rintro _ e j ⟨rfl, hclient, hfailure⟩
      obtain ⟨hraised, hresponse⟩ := hfailure e rfl
      refine concluded_response hclient (hreply j) (by simpa using hdescribes) hresponse ?_
      rintro _ ⟨⟩
      exact hraised
    · rintro _ p j ⟨rfl, hclient, -⟩
      exact concluded_panic _ p hclient (hreply j)
  next =>
    exact concluded_response rfl (fun _ => rfl) (by simpa using hdescribes) rfl fun _ h => by cases h

end

/-- Every run of an exchange is concluded. -/
theorem concluded_of_ends [Reply ρ] {R : Resumption} {ctx : CallContext} {i : Invocation ρ}
    {w : World} {d : Departure ρ CallResult} (h : Call.Ends R (run ctx) i w d) :
    ∃ xs : List Unit, Concluded (fun _ => []) i xs (d.outcome, d.invocation) := by
  obtain ⟨w', -, hruns⟩ := h
  obtain ⟨xs, -, hconcluded⟩ := Work.Traces.of_ends (fun _ _ _ _ => rfl) hruns
    (traces_run (watches_nothing i) ctx)
  exact ⟨xs, hconcluded⟩

end Exchange

end CallChain
