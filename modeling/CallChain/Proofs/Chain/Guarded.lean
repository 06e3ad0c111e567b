import CallChain.Proofs.Chain.Composition
import CallChain.Proofs.Chain.Fitted
import CallChain.Proofs.Chain.Panic
import Mathlib.Data.List.TakeWhile

/-!
# What stands inside a guard that turns calls back

A stage of the library runs the rest of the chain for the client, the method and the target of the call,
and for no others (`Builtin.work_intercept_congr`).  So a chain in which a guard turns the call back does the
same work whatever the guard stands around: no stage inside it is ever run, and neither is the center
(`Chain.work_run_guarded`).  What comes of the call is the refusal, as it leaves the acting stages outside the
first guard (`Chain.ends_guarded_iff`).
-/

set_option autoImplicit false

namespace CallChain

open Call (Ends)

variable {ρ : Type}

/-- The acting stages outside the first guard that acts. -/
def Fitted.unguarded (fs : List Fitted) (m t : String) : List Builtin :=
  (acting fs m t).takeWhile fun b => b ≠ .certificateGuard

namespace CertificateGuard

/-- The failure that a refusal comes to outside the guard and the stages around it. -/
def failureOf (settings : ClientSettings) (outer : List Builtin) : CallFailure where
  fault :=
    { coder := settings.codes.lookup Codes.clientCertificate
      description := "mutual tls is required, client runs in " ++ settings.mode.name ++ " mode"
      stack := settings.codes.stamp .guardRefuses Codes.clientCertificate ::
        Builtin.stamps settings.codes outer Codes.clientCertificate }
  response := none

theorem markAll_refusal {settings : ClientSettings} (hbuilt : settings.codes.Built)
    (outer : List Builtin) :
    Chain.markAll settings.codes outer (refusal settings) = failureOf settings outer := by
  have hcode : (refusal settings).fault.code = Codes.clientCertificate := hbuilt.code_lookup_base (by decide)
  have hstack : (refusal settings).fault.stack =
      [settings.codes.stamp .guardRefuses Codes.clientCertificate] := by
    show [(Frame.capture _ (settings.codes.lookup Codes.clientCertificate).code _).render] = _
    rw [hbuilt.code_lookup_base (by decide)]
    rfl
  rw [Chain.markAll_eq, hcode, hstack]
  rfl

/-- A guard that turns the call back does not run what it stands around. -/
theorem work_intercept_congr_of_ne [Reply ρ] {next next' : Next ρ} {ctx : CallContext}
    {i : Invocation ρ} (hmode : i.client.mode ≠ .mutualTls) :
    (intercept ctx next).run.run i = (intercept ctx next').run.run i := by
  show ((if i.client.mode = .mutualTls then _ else _ : Call ρ CallResult)).run.run i =
    ((if i.client.mode = .mutualTls then _ else _ : Call ρ CallResult)).run.run i
  rw [if_neg hmode, if_neg hmode]

end CertificateGuard

namespace Builtin

variable [Reply ρ] {next next' : Next ρ}

/-- A stage runs the rest of the chain for the client, the method and the target of the call alone: around
two rests that do the same for these, it does the same. -/
theorem work_intercept_congr (b : Builtin) (ctx : CallContext) (i : Invocation ρ)
    (h : ∀ (ctx' : CallContext) (j : Invocation ρ), j = { i with options := j.options } →
      (next.run ctx').run.run j = (next'.run ctx').run.run j) :
    (b.intercept ctx next).run.run i = (b.intercept ctx next').run.run i := by
  -- `hbind` is for the stages that look at what comes back, wherever they run the rest.
  have hbind (j : Invocation ρ) (hj : j = { i with options := j.options }) (ctx' : CallContext)
      {β : Type} (k : CallResult → Call ρ β) :
      (next.run ctx' >>= k).run.run j = (next'.run ctx' >>= k).run.run j := by
    rw [Call.SameAt.work_bind, Call.SameAt.work_bind, h ctx' j hj]
  cases b with
  | accessLog => exact congrArg (Work.act _) (funext fun _ => hbind i rfl ctx _)
  | statusVerdict => exact hbind i rfl ctx _
  | statusCodeGate => exact hbind (i.push .responseNotParse) rfl ctx _
  | certificateGuard =>
    by_cases hmode : i.client.mode = .mutualTls
    · show ((if i.client.mode = .mutualTls then _ else _ : Call ρ CallResult)).run.run i =
        ((if i.client.mode = .mutualTls then _ else _ : Call ρ CallResult)).run.run i
      rw [if_pos hmode, if_pos hmode]
      exact hbind i rfl ctx _
    · exact CertificateGuard.work_intercept_congr_of_ne hmode
  | recovery =>
    refine congrArg (Work.act _) (funext fun _ => ?_)
    have hcaught : (next.run ctx).caught.run.run i = (next'.run ctx).caught.run.run i :=
      congrArg (fun p => p.bind fun r => .done ((.ok r.1 : Except Panic _), r.2)) (h ctx i rfl)
    show ((next.run ctx).caught >>= _).run.run i = ((next'.run ctx).caught >>= _).run.run i
    rw [Call.SameAt.work_bind, Call.SameAt.work_bind, hcaught]
  | requestId =>
    show (RequestId.intercept ctx next).run.run i = (RequestId.intercept ctx next').run.run i
    unfold RequestId.intercept
    cases ctx.requestId with
    | some id => exact h _ (i.push (.setHeader RequestId.header [id])) rfl
    | none =>
      refine congrArg (Work.act _) (funext fun w => ?_)
      exact h _ (i.push (.setHeader RequestId.header [w.nextId])) rfl
  | callSpan =>
    show (CallSpan.intercept ctx next).run.run i = (CallSpan.intercept ctx next').run.run i
    unfold CallSpan.intercept
    dsimp only
    generalize ctx.fields.entries = fields
    have hinner := h (ctx.inSpan (CallSpan.spanOf ctx i)) i rfl
    show ((forIn fields _ _ >>= _ : Call ρ CallResult)).run.run i =
      ((forIn fields _ _ >>= _ : Call ρ CallResult)).run.run i
    induction fields with
    | nil =>
      simp only [List.forIn_nil, pure_bind]
      exact hinner
    | cons f rest ih =>
      simp only [List.forIn_cons, bind_assoc, pure_bind]
      exact congrArg (Work.act _) (funext fun _ => ih)

end Builtin

namespace Chain

variable [Reply ρ] {R : Resumption} {center : CallContext → Call ρ CallResult}

theorem work_run_fitted_cons (f : Fitted) (rest : Chain) (center : CallContext → Call ρ CallResult)
    (ctx : CallContext) (i : Invocation ρ) :
    (run (f.stage :: rest) center ctx).run.run i =
      if Skipper.any f.skippers i.method i.target = true then (run rest center ctx).run.run i
      else (f.builtin.intercept ctx ⟨rest.map Stage.name, run rest center⟩).run.run i := by
  rw [work_run_cons f.stage rest center ctx ⟨rfl, rfl⟩]
  simp only [Fitted.stage, Builtin.skips_stage, Builtin.intercept_stage]

/-- The work of a chain with a guard that turns the call back does not depend on what is inside. -/
theorem work_run_guarded {outer : List Fitted} {skippers : List Skipper} {rest rest' : Chain}
    {center' : CallContext → Call ρ CallResult} {i : Invocation ρ}
    (hmode : i.client.mode ≠ .mutualTls) (hacts : Skipper.any skippers i.method i.target = false)
    (ctx : CallContext) :
    (run (outer.map Fitted.stage ++ (Fitted.mk .certificateGuard skippers).stage :: rest) center
        ctx).run.run i =
      (run (outer.map Fitted.stage ++ (Fitted.mk .certificateGuard skippers).stage :: rest') center'
        ctx).run.run i := by
  -- The stages outside may push options, so the invocation is generalized along with the context.
  induction outer generalizing ctx i with
  | nil =>
    rw [List.map_nil, List.nil_append, List.nil_append, work_run_fitted_cons, work_run_fitted_cons,
      hacts, if_neg Bool.false_ne_true, if_neg Bool.false_ne_true]
    exact CertificateGuard.work_intercept_congr_of_ne hmode
  | cons f outer ih =>
    rw [List.map_cons, List.cons_append, List.cons_append, work_run_fitted_cons,
      work_run_fitted_cons]
    split
    · exact ih hmode hacts ctx
    · exact Builtin.work_intercept_congr f.builtin ctx i fun ctx' j hj => by
        rw [hj]
        exact ih (i := { i with options := j.options }) hmode hacts ctx'

/-- A call that meets a guard comes back from it refused, through the stages outside. -/
theorem ends_guarded_iff {fs : List Fitted} {m t : String} {x : Entrance ρ}
    {d : Departure ρ CallResult} (hbuilt : x.invocation.client.codes.Built)
    (hat : x.invocation.At m t) (hmode : x.invocation.client.mode ≠ .mutualTls)
    (hguard : .certificateGuard ∈ Fitted.acting fs m t) :
    Ends R (run (fs.map Fitted.stage) center x.context) x.invocation x.world d ↔
      d = ⟨.ok (.error
            (CertificateGuard.failureOf x.invocation.client (Fitted.unguarded fs m t))),
          (Builtin.enterAll (Fitted.unguarded fs m t) x).invocation,
          (Builtin.enterAll (Fitted.unguarded fs m t) x).world.quiet⟩ := by
  obtain ⟨outer, skippers, inner, rfl, hacts, houter⟩ := Fitted.exists_outermost hguard
  have hunguarded : Fitted.acting outer m t =
      Fitted.unguarded (outer ++ ⟨.certificateGuard, skippers⟩ :: inner) m t := houter
  have hpasses : ∀ b ∈ Fitted.acting outer m t, ¬ b.Refuses x.invocation := by
    rw [houter]
    rintro b hb ⟨rfl, -⟩
    simpa using List.mem_takeWhile_imp hb
  rw [List.map_append, List.map_cons, ends_fitted_iff outer hat hpasses, hunguarded]
  generalize Fitted.unguarded _ m t = bs
  -- The guard is asked on the invocation as it comes in, but for its options
  have hentered := Builtin.invocation_enterAll bs x
  have hmode' : (Builtin.enterAll bs x).invocation.client.mode ≠ .mutualTls := by
    rw [hentered]
    exact hmode
  have hacts' : Skipper.any skippers (Builtin.enterAll bs x).invocation.method
      (Builtin.enterAll bs x).invocation.target = false := by
    rw [hentered, hat.1, hat.2]
    exact hacts
  have hclient : (Builtin.enterAll bs x).invocation.client = x.invocation.client := by
    rw [hentered]
  simp only [ends_guard_iff hmode' hacts', hclient, exists_eq_left]
  have hcodes : (Builtin.enterAll bs x).invocation.codes = x.invocation.codes :=
    congrArg (fun settings : ClientSettings => settings.codes) hclient
  rw [Builtin.leaveAll_failure hcodes]
  show d = ⟨.ok (.error (markAll x.invocation.client.codes bs _)), _, _⟩ ↔ _
  rw [CertificateGuard.markAll_refusal hbuilt]

end Chain

end CallChain
