import CallChain.Proofs.Chain.Guarded
import CallChain.Proofs.Chain.Reply
import CallChain.Proofs.Client.Reordering
import CallChain.Proofs.Client.Resolved

/-!
# Calls that the guard turns back

A client that does not present a certificate makes no call through a guard.  The stages outside the guard
are entered, see the refusal come back and mark it; the guard and what it stands around change nothing.
`invoke_turnedBack` says what becomes of such a call, and that it does the same work whatever stands inside
the guard.
-/

set_option autoImplicit false

namespace CallChain

open Call (Ends)

variable {ρ : Type} [Reply ρ] {R : Resumption}

namespace Client

/-- What becomes of a call that a guard turns back. -/
structure TurnedBack (R : Resumption) (c : Client) (catalog : Catalog) (ctx : CallContext)
    (method target : String) (body : RequestBody) (reply : Option ρ) (options : List CallOption)
    (fs : List Fitted) (w : World) : Prop where
  /-- The call comes to an end. -/
  ends : ∃ r w', Work.Ends R (c.invoke catalog ctx method target body reply options) w r w'
  /-- It fails with the refusal, marked by the stages outside the guard, and with the reply as it was. -/
  fails : ∀ r w', Work.Ends R (c.invoke catalog ctx method target body reply options) w r w' →
    r = (.ok (.error (CertificateGuard.failureOf c.settings (Fitted.unguarded fs method target))), reply)
  /-- The failure is one of the client certificate. -/
  code : (CertificateGuard.failureOf c.settings (Fitted.unguarded fs method target)).fault.code =
    Codes.clientCertificate
  /-- It carries no response. -/
  response : (CertificateGuard.failureOf c.settings (Fitted.unguarded fs method target)).response = none
  /-- All it leaves behind, but for its log, is an id drawn and the place of an old panic forgotten by stages
  outside the guard. -/
  leaves : ∀ r w', Work.Ends R (c.invoke catalog ctx method target body reply options) w r w' →
    w'.quiet =
      { w.quiet with
        panicSite := if .recovery ∈ Fitted.unguarded fs method target then none else w.panicSite
        idsDrawn := if .requestId ∈ Fitted.unguarded fs method target ∧ ctx.requestId = none then
          w.idsDrawn + 1 else w.idsDrawn }
  /-- There is no dial, and no request is handed over. -/
  silent : ∀ r w', Work.Ends R (c.invoke catalog ctx method target body reply options) w r w' →
    w'.dials = w.dials ∧ w'.requests = w.requests
  /-- It does the same work whatever other chain stands inside the guard, and whatever is at the center. -/
  unread : ∀ outer skippers inner, fs = outer ++ ⟨.certificateGuard, skippers⟩ :: inner →
    Skipper.any skippers method target = false →
    ∀ (rest : Chain) (center : CallContext → Call ρ CallResult),
      c.invoke catalog ctx method target body reply options =
        c.invokeThrough catalog ctx method target body reply options
          (outer.map Fitted.stage ++ (Fitted.mk .certificateGuard skippers).stage :: rest) center

variable {c : Client} {catalog : Catalog} {ctx : CallContext} {method target : String}
  {body : RequestBody} {reply : Option ρ} {options : List CallOption} {fs : List Fitted} {w : World}

/-- A call that a guard turns back ends in one way. -/
theorem ends_invoke_guarded_iff (hresolves : c.Resolves catalog options fs)
    (hmode : c.settings.mode ≠ .mutualTls)
    (hguard : .certificateGuard ∈ Fitted.acting fs method target)
    (hbuilt : c.settings.codes.Built) {r : Except Panic CallResult × Option ρ} {v : World} :
    (∃ w', Work.Ends R (c.invoke catalog ctx method target body reply options) w r w' ∧
        w'.quiet = v) ↔
      r = (.ok (.error
        (CertificateGuard.failureOf c.settings (Fitted.unguarded fs method target))), reply) ∧
      v = (Builtin.enterAll (Fitted.unguarded fs method target)
        (c.entranceOf catalog ctx method target body reply options w)).world.quiet := by
  let x := c.entranceOf catalog ctx method target body reply options w
  have hreply : (Builtin.enterAll (Fitted.unguarded fs method target) x).invocation.reply.value? =
      reply := by
    rw [Builtin.invocation_enterAll]
    exact ReplySlot.value?_ofOption reply
  have hchain (d : Departure ρ CallResult) : Ends R (Chain.run (fs.map Fitted.stage) Exchange.run ctx)
      (c.invocationOf method target body reply options) (c.warned catalog options w) d ↔ _ :=
    Chain.ends_guarded_iff (x := x) hbuilt ⟨rfl, rfl⟩ hmode hguard
  obtain ⟨o, reply'⟩ := r
  rw [invoke_eq_through hresolves, ends_invokeThrough_iff]
  simp only [hchain, Departure.mk.injEq, Prod.mk.injEq]
  constructor
  · rintro ⟨_, ⟨rfl, rfl, rfl⟩, rfl⟩
    exact ⟨⟨rfl, hreply⟩, rfl⟩
  · rintro ⟨⟨rfl, rfl⟩, rfl⟩
    exact ⟨_, ⟨rfl, rfl, rfl⟩, hreply.symm⟩

omit [Reply ρ] in
/-- The world that a call has gone into through stages, but for its log. -/
theorem quiet_enterAll_entranceOf (bs : List Builtin) :
    (Builtin.enterAll bs
        (c.entranceOf catalog ctx method target body reply options w)).world.quiet =
      { w.quiet with
        panicSite := if .recovery ∈ bs then none else w.panicSite
        idsDrawn := if .requestId ∈ bs ∧ ctx.requestId = none then w.idsDrawn + 1
          else w.idsDrawn } := by
  have hworld := (Builtin.Entered.enterAll bs
    (c.entranceOf catalog ctx method target body reply options w)).world
  generalize hx : c.entranceOf catalog ctx method target body reply options w = x at hworld ⊢
  have hcontext : x.context = ctx := by
    rw [← hx]
    rfl
  have hquiet : x.world.quiet = w.quiet := by
    rw [← hx]
    exact quiet_warned c catalog options w
  have hsite : x.world.panicSite = w.panicSite := (congrArg World.panicSite hquiet :)
  have hids : x.world.idsDrawn = w.idsDrawn := (congrArg World.idsDrawn hquiet :)
  have hdrawn : x.idsDrawn = if ctx.requestId = none then w.idsDrawn + 1 else w.idsDrawn := by
    unfold Entrance.idsDrawn
    rw [RequestId.idsDrawn_drawnFor, hcontext, hids]
    cases ctx.requestId <;> rfl
  rw [hworld, hdrawn, hquiet, hsite, hids]
  by_cases hmem : Builtin.requestId ∈ bs <;> simp [hmem]

/-- Without a client certificate, a call that meets a guard fails at the guard: nothing inside is run, and
nothing is left of the call but its failure. -/
theorem invoke_turnedBack (hresolves : c.Resolves catalog options fs)
    (hmode : c.settings.mode ≠ .mutualTls)
    (hguard : .certificateGuard ∈ Fitted.acting fs method target)
    (hbuilt : c.settings.codes.Built) :
    TurnedBack R c catalog ctx method target body reply options fs w := by
  have hends {r : Except Panic CallResult × Option ρ} {v : World} :
      (∃ w', Work.Ends R (c.invoke catalog ctx method target body reply options) w r w' ∧
        w'.quiet = v) ↔ _ :=
    ends_invoke_guarded_iff hresolves hmode hguard hbuilt
  have hleaves (r : Except Panic CallResult × Option ρ) (w' : World)
      (h : Work.Ends R (c.invoke catalog ctx method target body reply options) w r w') :
      w'.quiet = _ :=
    (hends.mp ⟨w', h, rfl⟩).2.trans (quiet_enterAll_entranceOf _)
  constructor
  case ends =>
    obtain ⟨w', h, -⟩ := hends.mpr ⟨rfl, rfl⟩
    exact ⟨_, w', h⟩
  case fails =>
    intro r w' h
    exact (hends.mp ⟨w', h, rfl⟩).1
  case code => exact hbuilt.code_lookup_base (by decide)
  case response => rfl
  case leaves => exact hleaves
  case silent =>
    intro r w' h
    have hquiet := hleaves r w' h
    rw [← World.dials_quiet w', ← World.requests_quiet w', hquiet, ← World.dials_quiet w,
      ← World.requests_quiet w]
    exact ⟨rfl, rfl⟩
  case unread =>
    rintro outer skippers inner rfl hacts rest center
    rw [invoke_eq_through hresolves, List.map_append, List.map_cons]
    unfold invokeThrough
    rw [Chain.work_run_guarded hmode hacts ctx]

/-- A client without TLS, whose guard stands between a recovery and the access log. -/
theorem invoke_turnedBack_plain :
    let bs : List Builtin := [.recovery, .requestId, .certificateGuard, .accessLog]
    (scripted .ok bs).Resolves .standard [] (bs.map fun b => ⟨b, []⟩) ∧
      (scripted .ok bs).settings.mode ≠ .mutualTls ∧
      .certificateGuard ∈ Fitted.acting (bs.map fun b => ⟨b, []⟩) "GET" "/" ∧
      (scripted .ok bs).settings.codes.Built ∧
      TurnedBack Work.alone (scripted .ok bs) .standard (.ofToken ⟨[0]⟩) "GET" "/" .empty
        (some Json.null) [] (bs.map fun b => ⟨b, []⟩) .initial := by
  intro bs
  have hresolves : (scripted .ok bs).Resolves .standard [] (bs.map fun b => ⟨b, []⟩) :=
    (hasChain_scripted .ok bs rfl).resolves
  have hmode : (scripted .ok bs).settings.mode ≠ .mutualTls := by decide
  have hguard : .certificateGuard ∈ Fitted.acting (bs.map fun b => ⟨b, []⟩) "GET" "/" := by
    rw [Fitted.acting_map bs rfl]
    decide
  have hbuilt : (scripted .ok bs).settings.codes.Built := .new _
  exact ⟨hresolves, hmode, hguard, hbuilt, invoke_turnedBack hresolves hmode hguard hbuilt⟩

end Client

end CallChain
