import CallChain.Proofs.Chain.Builtin
import CallChain.Proofs.Exchange.Step

/-!
# How a call passes a stage

Each stage of the library does three things at most: it refuses the call, or it lets the call in after
changing the context, the invocation and the world (`Builtin.enter`), and it turns what comes back from
the rest of the chain into what it hands out (`Builtin.leave`).  Both changes are functions without any
waiting in them.  `Builtin.ends_intercept_iff` says that the stage is these functions and nothing else,
and `Chain.endsFrom_cons_iff` says so of the outermost stage of a chain.
-/

set_option autoImplicit false

namespace CallChain

open Call (Ends)

variable {ρ : Type} {R : Resumption}

theorem Invocation.info_push (i : Invocation ρ) (o : CallOption) :
    (i.push o).info = i.info.apply o := by
  simp only [info, push, CallInfo.ofOptions, List.foldl_append, List.foldl_cons, List.foldl_nil]

/-- What goes into a part of the chain. -/
structure Entrance (ρ : Type) where
  context : CallContext
  invocation : Invocation ρ
  world : World

namespace Exchange

variable [Reply ρ] {place : Place} {ctx : CallContext} {response : RawResponse} {i : Invocation ρ}
  {w : World}

/-- The failure of a response whose body does not decode. -/
def undecodable (codes : CodeRegistry) (place : Place) (response : RawResponse) : CallFailure :=
  .withResponse
    (Fault.wrapCause codes (codes.site place) Codes.responseParse (.other Json.malformed)) response

/-- The invocation with a response decoded into its reply, or the failure of a body that does not
decode. -/
def decoded (place : Place) (i : Invocation ρ) (response : RawResponse) :
    Except CallFailure (Invocation ρ) :=
  match i.reply.seen? with
  | none => .ok i
  | some reply =>
    match Reply.decode? reply response.body with
    | some reply => .ok { i with reply := .live reply }
    | none => .error (undecodable i.codes place response)

/-- Only a body that does not decode into a reply is a failure. -/
theorem decoded_eq_error {i : Invocation ρ} {response : RawResponse} {e : CallFailure}
    (h : decoded place i response = .error e) :
    (∃ reply, i.reply.seen? = some reply ∧ Reply.decode? reply response.body = none) ∧
      e = undecodable i.codes place response := by
  unfold decoded at h
  cases hseen : i.reply.seen? with
  | none => simp [hseen] at h
  | some reply =>
    cases hdecode : Reply.decode? reply response.body with
    | some reply' => simp [hseen, hdecode] at h
    | none =>
      simp only [hseen, hdecode, Except.error.injEq] at h
      exact ⟨⟨reply, rfl, hdecode⟩, h.symm⟩

/-- Decoding a response either leaves the decoded reply behind, or fails and changes nothing. -/
theorem ends_decodeReply_iff {d : Departure ρ (Except CallFailure Unit)} :
    Ends R (decodeReply place ctx response : Step ρ Unit).run i w d ↔
      d = match decoded place i response with
        | .ok j => ⟨.ok (.ok ()), j, w.quiet⟩
        | .error e => ⟨.ok (.error e), i, w.quiet⟩ := by
  rw [decodeReply, ends_get_bind_iff, decoded]
  cases i.reply.seen? with
  | none => exact ends_pure_iff
  | some reply =>
    dsimp only
    cases Reply.decode? reply response.body with
    | some reply' => exact ends_set_iff
    | none => exact ends_log_throw_iff fun _ => rfl

/-- What becomes of a response that is to be decoded. -/
def handOut (place : Place) (i : Invocation ρ) (response : RawResponse) (v : World) :
    Departure ρ CallResult :=
  match decoded place i response with
  | .ok j => ⟨.ok (.ok response), j, v⟩
  | .error e => ⟨.ok (.error e), i, v⟩

/-- Decoding a response changes the reply at most. -/
theorem invocation_handOut (place : Place) (i : Invocation ρ) (response : RawResponse) (v : World) :
    (handOut place i response v).invocation =
      { i with reply := (handOut place i response v).invocation.reply } := by
  unfold handOut decoded
  cases i.reply.seen? with
  | none => rfl
  | some reply =>
    dsimp only
    cases Reply.decode? reply response.body <;> rfl

theorem ends_decodeReply_bind_iff {d : Departure ρ CallResult} :
    Ends R (decodeReply place ctx response >>= fun _ => pure response : Step ρ RawResponse).run i w d ↔
      d = handOut place i response w.quiet := by
  rw [ends_bind_iff (fun _ j v => ⟨.ok (.ok response), j, v⟩) fun _ _ _ _ => ends_pure_iff]
  simp only [ends_decodeReply_iff, exists_eq_left, handOut]
  cases decoded place i response <;> rfl

end Exchange

/-- The outcome with one more frame in the history of a failure. -/
def CallResult.crossed (codes : CodeRegistry) (place : Place) : CallResult → CallResult
  | .ok r => .ok r
  | .error e => .error (e.updateStack codes (codes.site place))

namespace AccessLog

variable {ctx : CallContext} {next : Next ρ} {i : Invocation ρ} {w : World}

/-- What the stage makes of an outcome. -/
def leave (r : CallResult) (i : Invocation ρ) (v : World) : Departure ρ CallResult :=
  ⟨.ok (r.crossed i.codes .accessLog), i, v⟩

theorem ends_intercept_iff {d : Departure ρ CallResult} :
    Ends R (intercept ctx next) i w d ↔ ∃ e, Ends R (next.run ctx) i w e ∧ d = e.andThen leave := by
  simp only [intercept, Work.look]
  rw [Call.ends_act_bind_iff]
  refine Call.ends_bind_iff leave fun r i₁ w₁ d => ?_
  rw [Call.ends_act_bind_iff, Call.ends_get_bind_iff]
  cases r with
  | ok r =>
    dsimp only
    rw [Call.ends_log_bind_iff, Call.ends_pure_iff]
    simp [leave, CallResult.crossed]
  | error e =>
    dsimp only
    rw [Call.ends_log_bind_iff, Call.ends_log_bind_iff, Call.ends_pure_iff]
    simp [leave, CallResult.crossed]

end AccessLog

namespace StatusVerdict

variable [Reply ρ] {ctx : CallContext} {next : Next ρ} {i : Invocation ρ} {w : World}

/-- What becomes of a response whose reply shows a field. -/
def verdict (codes : CodeRegistry) (field : StatusField) (response : RawResponse) : CallResult :=
  match violation? field with
  | some reason =>
    .error (.withResponse
      (Fault.wrap codes (codes.site .verdictViolated) Codes.callStatusViolation reason) response)
  | none =>
    match CallStatus.toFault codes field.status? with
    | none => .ok response
    | some f => .error (.withResponse (Fault.pushFrame codes (codes.site .verdictReports) f) response)

/-- A verdict against a call rests on a violation or on a status that reports a fault. -/
theorem verdict_eq_error {codes : CodeRegistry} {field : StatusField} {response : RawResponse}
    {f : CallFailure} (h : verdict codes field response = .error f) :
    (∃ reason, violation? field = some reason ∧
      f = .withResponse
        (Fault.wrap codes (codes.site .verdictViolated) Codes.callStatusViolation reason) response) ∨
    ∃ s, field = .present s ∧ s.isSuccess codes = false ∧
      f = .withResponse
        (Fault.pushFrame codes (codes.site .verdictReports)
          (Fault.ofStack codes s.code s.description s.stack))
        response := by
  cases field with
  | present s =>
    cases hs : s.isSuccess codes with
    | true => simp [verdict, violation?, CallStatus.toFault, StatusField.status?, hs] at h
    | false =>
      simp only [verdict, violation?, CallStatus.toFault, StatusField.status?, hs,
        Bool.false_eq_true, if_false, Except.error.injEq] at h
      exact .inr ⟨s, rfl, hs, h.symm⟩
  | absent => exact .inl ⟨_, rfl, (Except.error.inj h).symm⟩
  | null => exact .inl ⟨_, rfl, (Except.error.inj h).symm⟩
  | invalid => exact .inl ⟨_, rfl, (Except.error.inj h).symm⟩

theorem carried?_verdict (codes : CodeRegistry) (field : StatusField) (response : RawResponse) :
    carried? (.ok (verdict codes field response)) = some response := by
  unfold verdict
  split
  · rfl
  · split <;> rfl

omit [Reply ρ] in
theorem ends_judge_iff {codes : CodeRegistry} {field : StatusField} {response : RawResponse}
    {d : Departure ρ CallResult} :
    Ends R (judge ctx codes field response) i w d ↔
      d = ⟨.ok (verdict codes field response), i, w.quiet⟩ := by
  simp only [judge, verdict]
  cases violation? field with
  | some reason =>
    dsimp only
    rw [Call.ends_log_bind_iff, Call.ends_pure_iff, World.quiet_record_logged]
  | none =>
    dsimp only
    cases CallStatus.toFault codes field.status? with
    | none => exact Call.ends_pure_iff
    | some f =>
      dsimp only
      rw [Call.ends_log_bind_iff, Call.ends_pure_iff, World.quiet_record_logged]

/-- What the stage makes of an outcome. -/
def leave (r : CallResult) (i : Invocation ρ) (v : World) : Departure ρ CallResult :=
  match r with
  | .ok response => ⟨.ok (verdict i.codes (fieldOf i response) response), i, v⟩
  | .error e => ⟨.ok (.error (e.updateStack i.codes (i.codes.site .verdictPasses))), i, v⟩

theorem ends_intercept_iff {d : Departure ρ CallResult} :
    Ends R (intercept ctx next) i w d ↔ ∃ e, Ends R (next.run ctx) i w e ∧ d = e.andThen leave := by
  refine Call.ends_bind_iff leave fun r i₁ w₁ d => ?_
  rw [Call.ends_get_bind_iff]
  cases r with
  | ok response => exact ends_judge_iff
  | error e => exact Call.ends_pure_iff

end StatusVerdict

namespace StatusCodeGate

variable [Reply ρ] {ctx : CallContext} {next : Next ρ} {i : Invocation ρ} {w : World}

/-- The failure of a response whose status is not one of success. -/
def refusal (codes : CodeRegistry) (response : RawResponse) : CallFailure :=
  .withResponse
    (Fault.wrap codes (codes.site .gateRefuses) Codes.httpError
      ("response status is " ++ toString response.statusCode ++ " " ++ response.status))
    response

/-- What the stage makes of an outcome. -/
def leave (r : CallResult) (i : Invocation ρ) (v : World) : Departure ρ CallResult :=
  match r with
  | .ok response =>
    if response.isSuccess then Exchange.handOut .gateDecodes i response v
    else ⟨.ok (.error (refusal i.codes response)), i, v⟩
  | .error e => ⟨.ok (.error (e.updateStack i.codes (i.codes.site .gatePasses))), i, v⟩

theorem carried?_leave (response : RawResponse) (i : Invocation ρ) (v : World) :
    carried? (leave (.ok response) i v).outcome = some response := by
  unfold leave Exchange.handOut
  dsimp only
  split
  · cases hdecoded : Exchange.decoded .gateDecodes i response with
    | ok j => rfl
    | error e =>
      obtain ⟨-, rfl⟩ := Exchange.decoded_eq_error hdecoded
      rfl
  · rfl

/-- The gate turns a response away for its status or for its body. -/
theorem outcome_leave_eq_error {response : RawResponse} {i : Invocation ρ} {v : World}
    {f : CallFailure} (h : (leave (.ok response) i v).outcome = .ok (.error f)) :
    (response.isSuccess = false ∧ f = refusal i.codes response) ∨
      Exchange.decoded .gateDecodes i response = .error f := by
  cases hsuccess : response.isSuccess with
  | false =>
    simp only [leave, hsuccess, Bool.false_eq_true, if_false, Except.ok.injEq,
      Except.error.injEq] at h
    exact .inl ⟨rfl, h.symm⟩
  | true =>
    simp only [leave, hsuccess, if_true, Exchange.handOut] at h
    cases hdecoded : Exchange.decoded .gateDecodes i response with
    | ok j => simp [hdecoded] at h
    | error e =>
      simp only [hdecoded, Except.ok.injEq, Except.error.injEq] at h
      exact .inr (by rw [h])

theorem ends_intercept_iff {d : Departure ρ CallResult} :
    Ends R (intercept ctx next) i w d ↔
      ∃ e, Ends R (next.run ctx) (i.push .responseNotParse) w e ∧ d = e.andThen leave := by
  rw [intercept, Call.ends_modify_bind_iff]
  refine Call.ends_bind_iff leave fun r i₁ w₁ d => ?_
  cases r with
  | ok response =>
    dsimp only
    rw [judge, Exchange.ends_get_bind_iff]
    cases hsuccess : response.isSuccess with
    | true =>
      simp only [leave, hsuccess, if_true]
      exact Exchange.ends_decodeReply_bind_iff
    | false =>
      simp only [leave, hsuccess]
      exact Exchange.ends_log_throw_iff fun _ => rfl
  | error e =>
    dsimp only
    rw [Call.ends_get_bind_iff]
    exact Call.ends_pure_iff

end StatusCodeGate

namespace CertificateGuard

variable {ctx : CallContext} {next : Next ρ} {i : Invocation ρ} {w : World}

/-- The failure of a call without a client certificate. -/
def refusal (settings : ClientSettings) : CallFailure :=
  .new (Fault.wrap settings.codes (settings.codes.site .guardRefuses) Codes.clientCertificate
    ("mutual tls is required, client runs in " ++ settings.mode.name ++ " mode"))

/-- What the stage makes of an outcome; the codes are those of the call as it came in. -/
def leave (codes : CodeRegistry) (r : CallResult) (i : Invocation ρ) (v : World) :
    Departure ρ CallResult :=
  ⟨.ok (r.crossed codes .guardPasses), i, v⟩

/-- Without a client certificate the rest of the chain does not run. -/
theorem ends_intercept_iff_of_ne (hmode : i.client.mode ≠ .mutualTls) {d : Departure ρ CallResult} :
    Ends R (intercept ctx next) i w d ↔ d = ⟨.ok (.error (refusal i.client)), i, w.quiet⟩ := by
  rw [intercept, Call.ends_get_bind_iff]
  simp only [if_neg hmode]
  rw [Call.ends_log_bind_iff, Call.ends_pure_iff, World.quiet_record_logged]
  rfl

theorem ends_intercept_iff_of_eq (hmode : i.client.mode = .mutualTls) {d : Departure ρ CallResult} :
    Ends R (intercept ctx next) i w d ↔
      ∃ e, Ends R (next.run ctx) i w e ∧ d = e.andThen (leave i.codes) := by
  rw [intercept, Call.ends_get_bind_iff]
  simp only [if_pos hmode]
  refine Call.ends_bind_iff (leave i.codes) fun r i₁ w₁ d => ?_
  cases r with
  | ok response => exact Call.ends_pure_iff
  | error e => exact Call.ends_pure_iff

end CertificateGuard

namespace Recovery

variable {ctx : CallContext} {next : Next ρ} {i : Invocation ρ} {w : World}

/-- What the stage makes of what comes back, a panic included. -/
def leave (e : Departure ρ CallResult) : Departure ρ CallResult :=
  match e.outcome with
  | .ok r => ⟨.ok r, e.invocation, e.world⟩
  | .error p =>
    ⟨.ok (.error (.new (faultOf e.invocation.codes e.world.panicSite p))), e.invocation,
      { e.world with panicSite := none }⟩

theorem ends_intercept_iff {d : Departure ρ CallResult} :
    Ends R (intercept ctx next) i w d ↔
      ∃ e, Ends R (next.run ctx) i { w with panicSite := none } e ∧ d = leave e := by
  simp only [intercept, takeSite, Work.modifyGet]
  rw [Call.ends_act_bind_iff]
  rw [Call.ends_bind_iff fun r i₁ v => leave ⟨r, i₁, v⟩]
  · simp only [Call.ends_caught_iff]
    constructor
    · rintro ⟨_, ⟨e, he, rfl⟩, hd⟩
      exact ⟨e, he, hd⟩
    · rintro ⟨e, he, hd⟩
      exact ⟨_, ⟨e, he, rfl⟩, hd⟩
  · intro r i₁ w₁ d
    cases r with
    | ok result => exact Call.ends_pure_iff
    | error p =>
      dsimp only
      rw [Call.ends_get_bind_iff, Call.ends_log_bind_iff, Call.ends_act_bind_iff,
        Call.ends_pure_iff, World.quiet_forget_site, World.quiet_record_logged]
      rfl

end Recovery

namespace RequestId

variable {ctx : CallContext} {next : Next ρ} {i : Invocation ρ} {w : World}

def idOf (ctx : CallContext) (w : World) : String := ctx.requestId.getD w.nextId

/-- The world with an id drawn, if the context has none. -/
def drawnFor (ctx : CallContext) (w : World) : World :=
  if ctx.requestId.isSome then w else { w with idsDrawn := w.idsDrawn + 1 }

theorem ends_intercept_iff {d : Departure ρ CallResult} :
    Ends R (intercept ctx next) i w d ↔
      Ends R (next.run (ctx.withRequestId (idOf ctx w))) (i.push (.setHeader header [idOf ctx w]))
        (drawnFor ctx w) d := by
  simp only [intercept, idOf, drawnFor]
  cases ctx.requestId with
  | some id =>
    simp only [pure_bind]
    rw [Call.ends_modify_bind_iff]
    rfl
  | none =>
    simp only [draw, Work.modifyGet]
    rw [Call.ends_act_bind_iff, Call.ends_modify_bind_iff]
    rfl

end RequestId

namespace CallSpan

variable {ctx : CallContext} {next : Next ρ} {i : Invocation ρ} {w : World}

/-- The world with the fields of the context in its log. -/
def logged (ctx : CallContext) (fields : List (String × String)) (w : World) : World :=
  fields.foldl (fun w f => w.record
    (.logged ⟨.debug, "call field", [("field", .string f.1), ("value", .string f.2)], ctx.span⟩)) w

theorem quiet_logged (ctx : CallContext) (fields : List (String × String)) (w : World) :
    (logged ctx fields w).quiet = w.quiet := by
  induction fields generalizing w with
  | nil => rfl
  | cons f rest ih =>
    rw [logged, List.foldl_cons]
    refine (ih _).trans ?_
    rw [World.quiet_record_logged]

theorem requests_logged (ctx : CallContext) (fields : List (String × String)) (w : World) :
    (logged ctx fields w).requests = w.requests := by
  rw [← World.requests_quiet, quiet_logged, World.requests_quiet]

theorem ends_intercept_iff {d : Departure ρ CallResult} :
    Ends R (intercept ctx next) i w d ↔
      Ends R (next.run (ctx.inSpan (spanOf ctx i))) i
        (logged (ctx.inSpan (spanOf ctx i)) ctx.fields.entries w) d := by
  rw [intercept, Call.ends_get_bind_iff]
  dsimp only
  generalize ctx.inSpan (spanOf ctx i) = inner
  generalize ctx.fields.entries = fields
  induction fields generalizing w with
  | nil =>
    simp only [List.forIn_nil, pure_bind]
    rfl
  | cons f rest ih =>
    simp only [List.forIn_cons, bind_assoc, pure_bind]
    rw [Call.ends_log_bind_iff, ih]
    rfl

end CallSpan

namespace Builtin

/-- Whether the stage lets no call of an invocation through. -/
def Refuses (b : Builtin) (i : Invocation ρ) : Prop :=
  b = certificateGuard ∧ i.client.mode ≠ .mutualTls

instance (b : Builtin) (i : Invocation ρ) : Decidable (b.Refuses i) :=
  inferInstanceAs (Decidable (_ ∧ _))

/-- What the stage hands to the rest of the chain when it lets a call through. -/
def enter (b : Builtin) (x : Entrance ρ) : Entrance ρ :=
  match b with
  | statusCodeGate => { x with invocation := x.invocation.push .responseNotParse }
  | recovery => { x with world := { x.world with panicSite := none } }
  | requestId =>
    let id := RequestId.idOf x.context x.world
    ⟨x.context.withRequestId id, x.invocation.push (.setHeader RequestId.header [id]),
      RequestId.drawnFor x.context x.world⟩
  | callSpan =>
    let inner := x.context.inSpan (CallSpan.spanOf x.context x.invocation)
    ⟨inner, x.invocation, CallSpan.logged inner x.context.fields.entries x.world⟩
  | _ => x

/-- What the stage makes of what comes back.  The codes are those of the call as it came in. -/
def leave [Reply ρ] (b : Builtin) (codes : CodeRegistry) (e : Departure ρ CallResult) :
    Departure ρ CallResult :=
  match b with
  | accessLog => e.andThen AccessLog.leave
  | statusVerdict => e.andThen StatusVerdict.leave
  | statusCodeGate => e.andThen StatusCodeGate.leave
  | certificateGuard => e.andThen (CertificateGuard.leave codes)
  | recovery => Recovery.leave e
  | requestId => e
  | callSpan => e

/-- Where the stage adds a frame to the failures it lets through, if it does. -/
def passing? : Builtin → Option Place
  | accessLog => some .accessLog
  | statusVerdict => some .verdictPasses
  | statusCodeGate => some .gatePasses
  | certificateGuard => some .guardPasses
  | recovery | requestId | callSpan => none

/-- Whether the stage adds a frame to the failures it lets through. -/
def marks (b : Builtin) : Bool := b.passing?.isSome

/-- A failure after it left through a stage. -/
def mark (b : Builtin) (codes : CodeRegistry) (e : CallFailure) : CallFailure :=
  match b.passing? with
  | some place => e.updateStack codes (codes.site place)
  | none => e

/-- What a call enters after a list of stages, outermost first. -/
def enterAll (bs : List Builtin) (x : Entrance ρ) : Entrance ρ := bs.foldl (fun x b => b.enter x) x

theorem enterAll_cons (b : Builtin) (bs : List Builtin) (x : Entrance ρ) :
    enterAll (b :: bs) x = enterAll bs (b.enter x) := rfl

/-- What a stage hands on differs from what it was given in options at most. -/
theorem invocation_enter (b : Builtin) (x : Entrance ρ) :
    (b.enter x).invocation = { x.invocation with options := (b.enter x).invocation.options } := by
  cases b <;> rfl

/-- On the way in, a stage adds headers and puts decoding off, and sets nothing else. -/
theorem info_enter (b : Builtin) (x : Entrance ρ) :
    (b.enter x).invocation.info =
      { x.invocation.info with
        headers := (b.enter x).invocation.info.headers
        responseNotParse := (b.enter x).invocation.info.responseNotParse } := by
  cases b with
  | statusCodeGate =>
    show (x.invocation.push .responseNotParse).info = _
    simp only [enter, Invocation.info_push]
    rfl
  | requestId =>
    simp only [enter, Invocation.info_push]
    rfl
  | accessLog | statusVerdict | certificateGuard | recovery | callSpan => rfl

theorem invocation_enterAll (bs : List Builtin) (x : Entrance ρ) :
    (enterAll bs x).invocation =
      { x.invocation with options := (enterAll bs x).invocation.options } := by
  induction bs generalizing x with
  | nil => rfl
  | cons b bs ih => rw [enterAll_cons, ih, invocation_enter]

/-- No stage hands over a request itself. -/
theorem requests_enter (b : Builtin) (x : Entrance ρ) :
    (b.enter x).world.requests = x.world.requests := by
  cases b with
  | requestId =>
    show (RequestId.drawnFor x.context x.world).requests = _
    unfold RequestId.drawnFor
    split <;> rfl
  | callSpan => exact CallSpan.requests_logged _ _ _
  | accessLog | statusVerdict | statusCodeGate | certificateGuard | recovery => rfl

variable [Reply ρ] {next : Next ρ} {x : Entrance ρ} {d : Departure ρ CallResult}

/-- On the way out a stage changes nothing in the world but that an old panic is forgotten. -/
theorem world_leave (b : Builtin) (codes : CodeRegistry) (e : Departure ρ CallResult) :
    (b.leave codes e).world = { e.world with panicSite := (b.leave codes e).world.panicSite } := by
  obtain ⟨p | f | response, i, v⟩ := e
  · cases b <;> rfl
  · cases b <;> rfl
  · cases b with
    | statusCodeGate =>
      show (StatusCodeGate.leave (.ok response) i v).world =
        { v with panicSite := (StatusCodeGate.leave (.ok response) i v).world.panicSite }
      unfold StatusCodeGate.leave Exchange.handOut
      dsimp only
      split
      · split <;> rfl
      · rfl
    | accessLog | statusVerdict | certificateGuard | recovery | requestId | callSpan => rfl

theorem requests_leave (b : Builtin) (codes : CodeRegistry) (e : Departure ρ CallResult) :
    (b.leave codes e).world.requests = e.world.requests := by
  rw [world_leave]
  rfl

/-- A failure leaves every stage marked, and nothing else changes. -/
theorem leave_failure {b : Builtin} {codes : CodeRegistry} {d : Departure ρ CallResult}
    {e : CallFailure} (hcodes : d.invocation.codes = codes) (he : d.outcome = .ok (.error e)) :
    b.leave codes d = ⟨.ok (.error (b.mark codes e)), d.invocation, d.world⟩ := by
  obtain ⟨o, i, v⟩ := d
  subst hcodes he
  cases b <;> rfl

/-- No stage adds or drops a response. -/
theorem carried?_leave (b : Builtin) (codes : CodeRegistry) (e : Departure ρ CallResult) :
    carried? (b.leave codes e).outcome = carried? e.outcome := by
  obtain ⟨p | f | response, i, v⟩ := e
  · cases b <;> rfl
  · cases b <;> rfl
  · cases b with
    | statusCodeGate => exact StatusCodeGate.carried?_leave response i v
    | statusVerdict => exact StatusVerdict.carried?_verdict _ _ response
    | accessLog | certificateGuard | recovery | requestId | callSpan => rfl

/-- No stage touches more of the invocation on the way out than the reply. -/
theorem invocation_leave (b : Builtin) (codes : CodeRegistry) (e : Departure ρ CallResult) :
    (b.leave codes e).invocation =
      { e.invocation with reply := (b.leave codes e).invocation.reply } := by
  obtain ⟨p | e | response, i, v⟩ := e
  · cases b <;> rfl
  · cases b <;> rfl
  · cases b with
    | statusCodeGate =>
      show (StatusCodeGate.leave (.ok response) i v).invocation =
        { i with reply := (StatusCodeGate.leave (.ok response) i v).invocation.reply }
      simp only [StatusCodeGate.leave]
      split
      · exact Exchange.invocation_handOut _ i response v
      · rfl
    | accessLog | statusVerdict | certificateGuard | recovery | requestId | callSpan => rfl

/-- The stage that refuses a call makes its own failure of it. -/
theorem ends_intercept_iff_of_refuses {b : Builtin} (h : b.Refuses x.invocation) :
    Ends R (b.intercept x.context next) x.invocation x.world d ↔
      d = ⟨.ok (.error (CertificateGuard.refusal x.invocation.client)), x.invocation,
        x.world.quiet⟩ := by
  obtain ⟨rfl, hmode⟩ := h
  exact CertificateGuard.ends_intercept_iff_of_ne hmode

/-- The stage that lets a call through is what it does on the way in and what it does on the way
out. -/
theorem ends_intercept_iff {b : Builtin} (h : ¬ b.Refuses x.invocation) :
    Ends R (b.intercept x.context next) x.invocation x.world d ↔
      ∃ e, Ends R (next.run (b.enter x).context) (b.enter x).invocation (b.enter x).world e ∧
        d = b.leave x.invocation.codes e := by
  cases b with
  | accessLog => exact AccessLog.ends_intercept_iff
  | statusVerdict => exact StatusVerdict.ends_intercept_iff
  | statusCodeGate => exact StatusCodeGate.ends_intercept_iff
  | certificateGuard =>
    have hmode : x.invocation.client.mode = .mutualTls :=
      Decidable.byContradiction fun hne => h ⟨rfl, hne⟩
    exact CertificateGuard.ends_intercept_iff_of_eq hmode
  | recovery => exact Recovery.ends_intercept_iff
  | requestId =>
    rw [show intercept requestId x.context next = RequestId.intercept x.context next from rfl,
      RequestId.ends_intercept_iff]
    simp only [enter, leave, exists_eq_right']
  | callSpan =>
    rw [show intercept callSpan x.context next = CallSpan.intercept x.context next from rfl,
      CallSpan.ends_intercept_iff]
    simp only [enter, leave, exists_eq_right']

end Builtin

namespace Chain

variable [Reply ρ]

/-- The run of a chain of stages of the library from an entrance on. -/
def EndsFrom (R : Resumption) (skippers : List Skipper) (bs : List Builtin) (x : Entrance ρ)
    (d : Departure ρ CallResult) : Prop :=
  Ends R (run (bs.map (Builtin.stage · skippers)) Exchange.run x.context) x.invocation x.world d

variable {skippers : List Skipper} {bs : List Builtin} {x : Entrance ρ} {d : Departure ρ CallResult}

theorem endsFrom_nil_iff :
    EndsFrom R skippers [] x d ↔ Ends R (Exchange.run x.context) x.invocation x.world d := by
  rw [EndsFrom, List.map_nil, run_nil]

/-- A stage that does not stand aside gets the run of the others. -/
theorem endsFrom_cons_iff {b : Builtin}
    (hskip : Skipper.any skippers x.invocation.method x.invocation.target = false) :
    EndsFrom R skippers (b :: bs) x d ↔
      if b.Refuses x.invocation then
        d = ⟨.ok (.error (CertificateGuard.refusal x.invocation.client)), x.invocation,
          x.world.quiet⟩
      else ∃ e, EndsFrom R skippers bs (b.enter x) e ∧ d = b.leave x.invocation.codes e := by
  rw [EndsFrom, List.map_cons, run_cons, Call.ends_get_bind_iff]
  simp only [Builtin.skips_stage, hskip, Builtin.intercept_stage, Bool.false_eq_true, if_false]
  split
  next h => exact Builtin.ends_intercept_iff_of_refuses h
  next h => exact Builtin.ends_intercept_iff h

theorem endsFrom_cons_of_refuses {b : Builtin}
    (hskip : Skipper.any skippers x.invocation.method x.invocation.target = false)
    (hrefuses : b.Refuses x.invocation) :
    EndsFrom R skippers (b :: bs) x
      ⟨.ok (.error (CertificateGuard.refusal x.invocation.client)), x.invocation, x.world.quiet⟩ := by
  rw [endsFrom_cons_iff hskip, if_pos hrefuses]

theorem endsFrom_cons_of_passes {b : Builtin}
    (hskip : Skipper.any skippers x.invocation.method x.invocation.target = false)
    (hrefuses : ¬ b.Refuses x.invocation) {e : Departure ρ CallResult}
    (he : EndsFrom R skippers bs (b.enter x) e) :
    EndsFrom R skippers (b :: bs) x (b.leave x.invocation.codes e) := by
  rw [endsFrom_cons_iff hskip, if_neg hrefuses]
  exact ⟨e, he, rfl⟩

/-- When its stages stand aside, the chain is what is at its center. -/
theorem endsFrom_iff_of_skips
    (hskip : Skipper.any skippers x.invocation.method x.invocation.target = true) :
    EndsFrom R skippers bs x d ↔ Ends R (Exchange.run x.context) x.invocation x.world d := by
  induction bs with
  | nil => exact endsFrom_nil_iff
  | cons b bs ih =>
    rw [EndsFrom, List.map_cons, run_cons, Call.ends_get_bind_iff]
    simp only [Builtin.skips_stage, hskip, if_true]
    exact ih

end Chain

end CallChain
