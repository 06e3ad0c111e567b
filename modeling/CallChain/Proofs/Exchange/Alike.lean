import CallChain.Proofs.Exchange.Step
import CallChain.Proofs.Work.Alike

/-!
# Exchanges that differ in their logs only

An exchange reads the token and the deadline of its context, what its options come to, and the world.
Two exchanges that agree on these, begun in worlds that differ in their logs only, take the same steps
and come to the same outcome, provided that no connection and no closure of the caller reads the log,
which none of them is handed.
-/

set_option autoImplicit false

namespace CallChain

/-- A connector that does not look at the log. -/
structure Connector.Blind (k : Connector) : Prop where
  connect : ∀ address tls, Attempt.Alike (k.connect address tls) (k.connect address tls)
  send : ∀ c q, Attempt.Alike (k.send c q) (k.send c q)

/-- A closure that does not look at the log. -/
def Action.Blind {α : Type} (a : Action α) : Prop :=
  ∀ w w' : World, w.quiet = w'.quiet → (a w).1 = (a w').1 ∧ (a w).2.quiet = (a w').2.quiet

/-- The closures among the options of a call do not look at the log. -/
structure CallInfo.Blind (info : CallInfo) : Prop where
  resolver : ∀ resolver, info.url = some resolver → Action.Blind resolver
  process : ∀ process, info.process = some process → ∀ q, Action.Blind (process q)

/-- Two contexts that stop at the same time. -/
structure CallContext.Kin (ctx ctx' : CallContext) : Prop where
  token : ctx.token = ctx'.token
  deadline : ctx.deadline = ctx'.deadline

/-- Two invocations of the same call whose options come to the same, but for the names of stages. -/
structure Invocation.Kin {ρ : Type} (i j : Invocation ρ) : Prop where
  rest : ∃ options, j = { i with options := options }
  info : ∃ stages, j.info = { i.info with stages := stages }

theorem Invocation.Kin.withReply {ρ : Type} {i j : Invocation ρ} (h : i.Kin j)
    (reply : ReplySlot ρ) : Invocation.Kin { i with reply := reply } { j with reply := reply } := by
  obtain ⟨⟨options, rfl⟩, hinfo⟩ := h
  exact ⟨⟨options, rfl⟩, hinfo⟩

namespace Exchange

open Work (Alike)

variable {ρ α β : Type} {i j : Invocation ρ} {ctx ctx' : CallContext}

/-- Two parts of an exchange that differ in their logs only, each of which leaves its invocation
alone. -/
def AlikeAt (i j : Invocation ρ) (s s' : Step ρ α) : Prop :=
  Alike (fun r r' => r.1 = r'.1 ∧ r.2 = i ∧ r'.2 = j) (s.run.run.run i) (s'.run.run.run j)

namespace AlikeAt

variable {s s' : Step ρ α} {k l : α → Step ρ β}

/-- What follows two parts of an exchange begins on the same invocations. -/
theorem followed {V : Except Panic (Except CallFailure β) × Invocation ρ →
      Except Panic (Except CallFailure β) × Invocation ρ → Prop}
    (hs : AlikeAt i j s s') (hfailure : ∀ e, V (.ok (.error e), i) (.ok (.error e), j))
    (hpanic : ∀ p, V (.error p, i) (.error p, j))
    (hk : ∀ a, Alike V ((k a).run.run.run i) ((l a).run.run.run j)) :
    Alike V ((s >>= k).run.run.run i) ((s' >>= l).run.run.run j) := by
  rw [work_bind, work_bind]
  refine Work.Alike.bind hs ?_
  rintro ⟨o, i'⟩ ⟨o', j'⟩ ⟨ho, rfl, rfl⟩
  obtain rfl : o = o' := ho
  obtain p | e | a := o
  · exact .done (hpanic p)
  · exact .done (hfailure e)
  · exact hk a

theorem bind (hs : AlikeAt i j s s') (hk : ∀ a, AlikeAt i j (k a) (l a)) :
    AlikeAt i j (s >>= k) (s' >>= l) :=
  hs.followed (fun _ => ⟨rfl, rfl, rfl⟩) (fun _ => ⟨rfl, rfl, rfl⟩) hk

theorem pure (a : α) : AlikeAt i j (Pure.pure a) (Pure.pure a) := .done ⟨rfl, rfl, rfl⟩

theorem throw (e : CallFailure) :
    AlikeAt i j (MonadExcept.throw e : Step ρ α) (MonadExcept.throw e) :=
  .done ⟨rfl, rfl, rfl⟩

theorem get_followed {V : Except Panic (Except CallFailure β) × Invocation ρ →
      Except Panic (Except CallFailure β) × Invocation ρ → Prop} {k l : Invocation ρ → Step ρ β}
    (hk : Alike V ((k i).run.run.run i) ((l j).run.run.run j)) :
    Alike V ((MonadState.get >>= k : Step ρ β).run.run.run i)
      ((MonadState.get >>= l : Step ρ β).run.run.run j) :=
  hk

theorem get_bind {k l : Invocation ρ → Step ρ β} (hk : AlikeAt i j (k i) (l j)) :
    AlikeAt i j (MonadState.get >>= k) (MonadState.get >>= l) :=
  get_followed hk

theorem lift {t t' : Attempt α} (h : Attempt.Alike t t') :
    AlikeAt i j (Exchange.lift t) (Exchange.lift t') := by
  rw [AlikeAt, work_lift, work_lift]
  refine Work.Alike.bind h ?_
  rintro r _ rfl
  exact .done ⟨rfl, rfl, rfl⟩

theorem log {level level' : Level} {message message' : String} {fields fields' : LogFields} :
    AlikeAt i j (Exchange.log ctx level message fields : Step ρ Unit)
      (Exchange.log ctx' level' message' fields') :=
  lift (.lift (.modify .logged))

theorem look_bind {k l : World → Step ρ β}
    (hk : ∀ w w' : World, w.quiet = w'.quiet → AlikeAt i j (k w) (l w')) :
    AlikeAt i j (Exchange.lift Work.look >>= k) (Exchange.lift Work.look >>= l) :=
  .act .rfl_id hk

end AlikeAt

theorem alike_ofAction {a : Action α} (ha : Action.Blind a) (hcodes : i.codes = j.codes)
    (place : Place) : AlikeAt i j (ofAction place a) (ofAction place a) := by
  refine AlikeAt.get_bind ?_
  rw [hcodes]
  refine AlikeAt.bind (AlikeAt.lift (Work.Alike.modifyGet ha)) fun r => ?_
  cases r with
  | ok b => exact AlikeAt.pure _
  | error f => exact AlikeAt.pure _

theorem alike_withQuery (hcodes : i.codes = j.codes) (info : CallInfo) (plain : String) :
    AlikeAt i j (withQuery ctx info plain) (withQuery ctx' info plain) := by
  refine AlikeAt.get_bind ?_
  rw [hcodes]
  cases info.query.addTo plain with
  | ok url => exact AlikeAt.pure url
  | error reason => exact AlikeAt.log.bind fun _ => AlikeAt.throw _

theorem alike_urlOf (hblind : i.info.Blind) (hkin : i.Kin j) (address : String) :
    AlikeAt i j (urlOf ctx i.info address) (urlOf ctx' j.info address) := by
  obtain ⟨⟨options, rfl⟩, stages, hstages⟩ := hkin
  have hcodes : i.codes = { i with options := options }.codes := rfl
  rw [hstages]
  refine AlikeAt.get_bind ?_
  have hquery (plain : String) : AlikeAt i { i with options := options }
      (withQuery ctx i.info plain) (withQuery ctx' i.info plain) := alike_withQuery hcodes i.info plain
  dsimp only
  cases hurl : i.info.url with
  | none => exact hquery _
  | some resolver =>
    refine (alike_ofAction (hblind.resolver resolver hurl) hcodes _).bind fun r => ?_
    cases r with
    | ok url => exact hquery _
    | error f => exact AlikeAt.log.bind fun _ => (AlikeAt.throw _).bind fun plain => hquery plain

theorem alike_prepare (hblind : i.info.Blind) (hctx : ctx.Kin ctx') (hkin : i.Kin j) :
    AlikeAt i j (prepare ctx : Step ρ Prepared) (prepare ctx') := by
  refine AlikeAt.get_bind ?_
  dsimp only
  have hurlOf (address : String) : AlikeAt i j (urlOf ctx i.info address)
      (urlOf ctx' j.info address) := alike_urlOf hblind hkin address
  obtain ⟨⟨options, rfl⟩, stages, hstages⟩ := hkin
  have hcodes : i.codes = { i with options := options }.codes := rfl
  rw [hstages] at hurlOf ⊢
  refine (hurlOf _).bind fun url => ?_
  refine AlikeAt.look_bind fun w w' hw => ?_
  have hremaining : ctx.remaining w = ctx'.remaining w' := by
    unfold CallContext.remaining
    rw [hctx.deadline, show w.now = w'.now from (congrArg World.now hw :)]
  rw [hremaining]
  dsimp only
  cases hprocess : i.info.process with
  | none => exact AlikeAt.pure _
  | some process =>
    refine (alike_ofAction (hblind.process process hprocess _) hcodes _).bind fun r => ?_
    cases r with
    | ok request => exact AlikeAt.pure _
    | error f => exact AlikeAt.throw _

end Exchange

namespace Dialer

theorem alike_dial {d : Dialer} (hconnector : d.connector.Blind) (span span' : Option LogFields) :
    Attempt.Alike (d.dial span) (d.dial span') := by
  refine Attempt.Alike.modify_bind (.record rfl) ?_
  refine (hconnector.connect _ _).bind fun r => ?_
  cases r with
  | ok c =>
    refine Attempt.Alike.modify_bind (.of_quiet fun _ => ?_) (.pure _)
    rfl
  | error e => exact Attempt.Alike.modify_bind .logged (.pure _)

/-- Taking the connection differs from span to span in the log only. -/
theorem alike_get {d : Dialer} (hconnector : d.connector.Blind) (span span' : Option LogFields) :
    Attempt.Alike (d.get span) (d.get span') := by
  have hkept : Work.Alike Eq Dialer.kept Dialer.kept := by
    refine Work.Alike.holding (Work.Alike.modifyGet fun w w' h => ?_)
    exact ⟨(congrArg World.connection h :), h⟩
  refine (Attempt.Alike.lift hkept).bind fun kept => ?_
  cases kept with
  | some c => exact .pure _
  | none =>
    refine Attempt.Alike.holding (Attempt.Alike.look_bind fun w w' h => ?_)
    rw [show w.connection = w'.connection from (congrArg World.connection h :)]
    cases w'.connection with
    | some c => exact .pure _
    | none => exact alike_dial hconnector span span'

end Dialer

namespace CallContext.Kin

variable {ctx ctx' : CallContext}

theorem doneGuard (h : ctx.Kin ctx') : ctx.doneGuard = ctx'.doneGuard := by
  unfold CallContext.doneGuard
  rw [h.token, h.deadline]

theorem reason (h : ctx.Kin ctx') {w w' : World} (hw : w.quiet = w'.quiet) :
    ctx.reason w = ctx'.reason w' := by
  have hnow : w.now = w'.now := (congrArg World.now hw :)
  have hcancelled : w.cancelled = w'.cancelled := (congrArg World.cancelled hw :)
  unfold CallContext.reason doneReason? isCancelled isExpired World.isCancelled
  rw [h.token, h.deadline, hnow, hcancelled]

end CallContext.Kin

namespace Exchange

open Work (Alike)

variable {ρ : Type} {i j : Invocation ρ} {ctx ctx' : CallContext}

theorem alike_connect (hconnector : i.client.connector.Blind) (hctx : ctx.Kin ctx') (hkin : i.Kin j)
    (url : String) : AlikeAt i j (connect ctx url : Step ρ ConnectionId) (connect ctx' url) := by
  obtain ⟨⟨options, rfl⟩, -⟩ := hkin
  refine AlikeAt.get_bind ?_
  rw [hctx.doneGuard]
  refine (AlikeAt.lift (Dialer.alike_get hconnector _ _).unlessBefore).bind fun r => ?_
  obtain _ | f | c := r
  · refine AlikeAt.look_bind fun w w' hw => AlikeAt.log.bind fun _ => ?_
    rw [hctx.reason hw]
    exact AlikeAt.throw _
  · exact AlikeAt.log.bind fun _ => AlikeAt.throw _
  · exact AlikeAt.pure c

theorem alike_send (hconnector : i.client.connector.Blind) (hctx : ctx.Kin ctx') (hkin : i.Kin j)
    (c : ConnectionId) (p : Prepared) :
    AlikeAt i j (send ctx c p : Step ρ RawResponse) (send ctx' c p) := by
  obtain ⟨⟨options, rfl⟩, -⟩ := hkin
  refine AlikeAt.get_bind ?_
  have hsend : Attempt.Alike (sendUnlessDone ctx i.client.connector c p.limit p.request)
      (sendUnlessDone ctx' i.client.connector c p.limit p.request) := by
    unfold sendUnlessDone
    rw [hctx.doneGuard]
    refine (hconnector.send c p.request).within.unlessBefore.bind fun r => ?_
    obtain _ | _ | outcome := r
    · refine Attempt.Alike.look_bind fun w w' hw => ?_
      rw [hctx.reason hw]
      exact .pure _
    · exact .pure _
    · exact .pure _
  refine (AlikeAt.lift hsend).bind fun r => ?_
  cases r with
  | ok response => exact AlikeAt.pure _
  | error e => exact AlikeAt.log.bind fun _ => AlikeAt.throw _

/-- Two exchanges came to the same: the same outcome, and the same reply in their invocations. -/
def CameToSame {α : Type} (i j : Invocation ρ)
    (r r' : Except Panic (Except CallFailure α) × Invocation ρ) : Prop :=
  r.1 = r'.1 ∧ ∃ reply, r.2 = { i with reply := reply } ∧ r'.2 = { j with reply := reply }

theorem cameToSame_of_kin {α : Type} (hkin : i.Kin j)
    (o : Except Panic (Except CallFailure α)) : CameToSame i j (o, i) (o, j) := by
  obtain ⟨⟨options, rfl⟩, -⟩ := hkin
  exact ⟨rfl, i.reply, rfl, rfl⟩

variable [Reply ρ]

theorem alike_decodeReply (hkin : i.Kin j) (place : Place) (response : RawResponse) :
    Alike (CameToSame i j) ((decodeReply place ctx response : Step ρ Unit).run.run.run i)
      ((decodeReply place ctx' response : Step ρ Unit).run.run.run j) := by
  have hsame (o : Except Panic (Except CallFailure Unit)) := cameToSame_of_kin hkin o
  obtain ⟨⟨options, rfl⟩, -⟩ := hkin
  refine AlikeAt.get_followed ?_
  dsimp only
  cases i.reply.seen? with
  | none => exact .done (hsame _)
  | some reply =>
    dsimp only
    cases Reply.decode? reply response.body with
    | some decoded => exact .done ⟨rfl, .live decoded, rfl, rfl⟩
    | none =>
      refine AlikeAt.log.followed (fun _ => hsame _) (fun _ => hsame _) fun _ => ?_
      exact .done (hsame _)

/-- Two exchanges that agree on everything an exchange reads come to the same. -/
theorem alike_run (hconnector : i.client.connector.Blind) (hblind : i.info.Blind)
    (hctx : ctx.Kin ctx') (hkin : i.Kin j) :
    Alike (CameToSame i j) ((run ctx : Call ρ CallResult).run.run i)
      ((run ctx' : Call ρ CallResult).run.run j) := by
  have hsame (o : Except Panic (Except CallFailure RawResponse)) := cameToSame_of_kin hkin o
  refine (alike_prepare hblind hctx hkin).followed (fun _ => hsame _) (fun _ => hsame _)
    fun prepared => ?_
  refine AlikeAt.get_followed ?_
  have hnoParse : j.info.responseNotParse = i.info.responseNotParse := by
    obtain ⟨-, stages, hstages⟩ := hkin
    rw [hstages]
  dsimp only
  rw [hnoParse]
  refine (alike_connect hconnector hctx hkin prepared.url).followed (fun _ => hsame _)
    (fun _ => hsame _) fun c => ?_
  refine (alike_send hconnector hctx hkin c prepared).followed (fun _ => hsame _)
    (fun _ => hsame _) fun response => ?_
  split
  · rw [work_bind, work_bind]
    refine (alike_decodeReply hkin _ response).bind ?_
    rintro ⟨o, i'⟩ ⟨o', j'⟩ ⟨ho, reply, rfl, rfl⟩
    obtain rfl : o = o' := ho
    obtain p | e | _ := o
    · exact .done ⟨rfl, reply, rfl, rfl⟩
    · exact .done ⟨rfl, reply, rfl, rfl⟩
    · exact .done ⟨rfl, reply, rfl, rfl⟩
  · exact .done (hsame _)

end Exchange

end CallChain
