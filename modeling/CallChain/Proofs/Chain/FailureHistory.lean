import CallChain.Proofs.Client.Invoke
import CallChain.Proofs.Exchange.Outcome

/-!
# The history of a failure through a chain

A failure begins somewhere: in the exchange, or at a stage that refuses the call, refuses the response
or recovers from a panic.  `Origin` lists the places with the history the failure had before it was
stamped there.  From its origin outward it only ever gains frames: one for each stage that marks what it
lets through, none for the others, and nothing else about it changes.

`endsFrom_failure` is the induction over the chain; `invoke_failure_history` says it of calls.
-/

set_option autoImplicit false

namespace CallChain

variable {ρ : Type} [Reply ρ] {R : Resumption} {skippers : List Skipper}

/-- The frames that stages add to a failure they let through, the innermost first: each that adds one,
at its own place. -/
def Builtin.stamps (codes : CodeRegistry) (outer : List Builtin) (code : Int) : List String :=
  (outer.reverse.filterMap passing?).map fun place => codes.stamp place code

namespace Chain

open Call (Ends)

/-- Where a failure begins: the stages from there on inward, the outermost of which made it, or none
when the exchange did; the history it had before; the place where it was stamped; and the failure
itself. -/
inductive Origin (R : Resumption) (skippers : List Skipper) :
    Entrance ρ → List Builtin → List String → Place → CallFailure → Prop where
  /-- The exchange at the center failed. -/
  | exchange {x : Entrance ρ} {d : Departure ρ CallResult} {given : List String} {place : Place}
      {e : CallFailure}
      (hd : Ends R (Exchange.run x.context) x.invocation x.world d) (ho : d.outcome = .ok (.error e))
      (h : Exchange.Raises x.invocation.codes x.invocation.info given place e) :
      Origin R skippers x [] given place e
  /-- The client has no certificate. -/
  | uncertified {x : Entrance ρ} {inner : List Builtin} (h : x.invocation.client.mode ≠ .mutualTls) :
      Origin R skippers x (.certificateGuard :: inner) [] .guardRefuses
        (CertificateGuard.refusal x.invocation.client)
  /-- The status of the response is none of success. -/
  | unsuccessful {x : Entrance ρ} {inner : List Builtin} {d : Departure ρ CallResult}
      {response : RawResponse} (hd : EndsFrom R skippers inner (Builtin.statusCodeGate.enter x) d)
      (ho : d.outcome = .ok (.ok response)) (h : response.isSuccess = false) :
      Origin R skippers x (.statusCodeGate :: inner) [] .gateRefuses
        (StatusCodeGate.refusal x.invocation.codes response)
  /-- The response does not decode at the gate. -/
  | undecodable {x : Entrance ρ} {inner : List Builtin} {d : Departure ρ CallResult}
      {response : RawResponse} {reply : ρ}
      (hd : EndsFrom R skippers inner (Builtin.statusCodeGate.enter x) d)
      (ho : d.outcome = .ok (.ok response)) (hreply : d.invocation.reply.seen? = some reply)
      (h : Reply.decode? reply response.body = none) :
      Origin R skippers x (.statusCodeGate :: inner) [] .gateDecodes
        (Exchange.undecodable x.invocation.codes .gateDecodes response)
  /-- The reply does not say how the call went. -/
  | unstated {x : Entrance ρ} {inner : List Builtin} {d : Departure ρ CallResult}
      {response : RawResponse} {reason : String}
      (hd : EndsFrom R skippers inner (Builtin.statusVerdict.enter x) d)
      (ho : d.outcome = .ok (.ok response))
      (h : StatusVerdict.violation? (StatusVerdict.fieldOf d.invocation response) = some reason) :
      Origin R skippers x (.statusVerdict :: inner) [] .verdictViolated
        (.withResponse
          (Fault.wrap x.invocation.codes (x.invocation.codes.site .verdictViolated)
            Codes.callStatusViolation reason)
          response)
  /-- The reply reports a fault of the remote service. -/
  | remote {x : Entrance ρ} {inner : List Builtin} {d : Departure ρ CallResult}
      {response : RawResponse} {s : CallStatus}
      (hd : EndsFrom R skippers inner (Builtin.statusVerdict.enter x) d)
      (ho : d.outcome = .ok (.ok response))
      (h : StatusVerdict.fieldOf d.invocation response = .present s)
      (hs : s.isSuccess x.invocation.codes = false) :
      Origin R skippers x (.statusVerdict :: inner) s.stack .verdictReports
        (.withResponse
          (Fault.pushFrame x.invocation.codes (x.invocation.codes.site .verdictReports)
            (Fault.ofStack x.invocation.codes s.code s.description s.stack))
          response)
  /-- The rest of the chain panicked.  The first frame says where. -/
  | recovered {x : Entrance ρ} {inner : List Builtin} {d : Departure ρ CallResult} {p : Panic}
      (hd : EndsFrom R skippers inner (Builtin.recovery.enter x) d) (ho : d.outcome = .error p) :
      Origin R skippers x (.recovery :: inner)
        [(Frame.capture x.invocation.codes.service
          (x.invocation.codes.lookup Codes.unknown).code
          (d.world.panicSite.getD (x.invocation.codes.site .panicUnseen))).render] .recovered
        (.new (Recovery.faultOf x.invocation.codes d.world.panicSite p))

/-- The history of a failure at its origin is the one it had before and the frame of its place. -/
theorem Origin.stack {x : Entrance ρ} {inner : List Builtin} {given : List String} {place : Place}
    {e : CallFailure} (h : Origin R skippers x inner given place e) :
    e.fault.stack = given ++ [x.invocation.codes.stamp place e.fault.code] := by
  cases h with
  | exchange hd ho h => cases h <;> rfl
  | uncertified h => rfl
  | unsuccessful hd ho h => rfl
  | undecodable hd ho hreply h => rfl
  | unstated hd ho h => rfl
  | remote hd ho h hs => rfl
  | recovered hd ho => rfl

variable {x : Entrance ρ} {bs : List Builtin} {d : Departure ρ CallResult}

/-- A chain that does not stand aside keeps the client of the call. -/
theorem client_of_endsFrom
    (hskip : Skipper.any skippers x.invocation.method x.invocation.target = false)
    (h : EndsFrom R skippers bs x d) : d.invocation.client = x.invocation.client := by
  induction bs generalizing x d with
  | nil =>
    obtain ⟨_, hconcluded⟩ := Exchange.concluded_of_ends (endsFrom_nil_iff.mp h)
    exact hconcluded.client
  | cons b bs ih =>
    rw [endsFrom_cons_iff hskip] at h
    split at h
    · rw [h]
    · obtain ⟨e, he, rfl⟩ := h
      have hclient := ih (by rw [Builtin.invocation_enter]; exact hskip) he
      rw [Builtin.invocation_leave, hclient, Builtin.invocation_enter]

/-- A failure that a stage made, or let through from the rest of the chain. -/
theorem outcome_leave_eq_failure {b : Builtin} {inner : List Builtin} {e : Departure ρ CallResult}
    {f : CallFailure} (he : EndsFrom R skippers inner (b.enter x) e)
    (hclient : e.invocation.client = x.invocation.client)
    (hf : (b.leave x.invocation.codes e).outcome = .ok (.error f)) :
    (∃ given place, Origin R skippers x (b :: inner) given place f) ∨
      ∃ g, e.outcome = .ok (.error g) ∧ f = b.mark x.invocation.codes g := by
  obtain ⟨o, i, v⟩ := e
  have hcodes : i.codes = x.invocation.codes := congrArg (·.codes) hclient
  rcases o with p | f' | response
  · -- Only recovery makes a failure of a panic.
    cases b with
    | recovery =>
      cases hf
      rw [hcodes]
      exact .inl ⟨_, _, .recovered he rfl⟩
    | accessLog | statusVerdict | statusCodeGate | certificateGuard | requestId | callSpan => cases hf
  · rw [Builtin.leave_failure hcodes rfl] at hf
    cases hf
    exact .inr ⟨f', rfl, rfl⟩
  · -- Only the gate and the verdict make a failure of a response.
    cases b with
    | statusCodeGate =>
      rcases StatusCodeGate.outcome_leave_eq_error hf with ⟨hsuccess, rfl⟩ | hdecoded
      · rw [hcodes]
        exact .inl ⟨_, _, .unsuccessful he rfl hsuccess⟩
      · obtain ⟨⟨reply, hreply, hbody⟩, rfl⟩ := Exchange.decoded_eq_error hdecoded
        rw [hcodes]
        exact .inl ⟨_, _, .undecodable he rfl hreply hbody⟩
    | statusVerdict =>
      have hverdict := Except.ok.inj hf
      rcases StatusVerdict.verdict_eq_error hverdict with ⟨reason, hreason, rfl⟩ | ⟨s, hs, hcode, rfl⟩
      · rw [hcodes]
        exact .inl ⟨_, _, .unstated he rfl hreason⟩
      · rw [hcodes] at hcode ⊢
        exact .inl ⟨_, _, .remote he rfl hs hcode⟩
    | accessLog | certificateGuard | recovery | requestId | callSpan => cases hf

/-- What a failure has become after it left through the given stages, outermost first. -/
def markAll (codes : CodeRegistry) (outer : List Builtin) (e : CallFailure) : CallFailure :=
  outer.foldr (fun b e => b.mark codes e) e

/-- Every failure of a chain has an origin in it, and was marked by the stages outside. -/
theorem endsFrom_failure
    (hskip : Skipper.any skippers x.invocation.method x.invocation.target = false)
    (h : EndsFrom R skippers bs x d) {f : CallFailure} (hf : d.outcome = .ok (.error f)) :
    ∃ outer inner given place e, bs = outer ++ inner ∧
      Origin R skippers (Builtin.enterAll outer x) inner given place e ∧
      f = markAll x.invocation.codes outer e := by
  induction bs generalizing x d f with
  | nil =>
    have hcenter := endsFrom_nil_iff.mp h
    obtain ⟨_, hconcluded⟩ := Exchange.concluded_of_ends hcenter
    obtain ⟨given, place, hraises⟩ := hconcluded.raised f hf
    exact ⟨[], [], given, place, f, rfl, .exchange hcenter hf hraises, rfl⟩
  | cons b bs ih =>
    rw [endsFrom_cons_iff hskip] at h
    split at h
    next hrefuses =>
      subst h
      cases hf
      obtain ⟨rfl, hmode⟩ := hrefuses
      exact ⟨[], _, [], _, _, rfl, .uncertified hmode, rfl⟩
    next =>
      obtain ⟨e, he, rfl⟩ := h
      have hskip' : Skipper.any skippers (b.enter x).invocation.method
          (b.enter x).invocation.target = false := by
        rw [Builtin.invocation_enter]
        exact hskip
      have hcodes : (b.enter x).invocation.codes = x.invocation.codes := by
        rw [Builtin.invocation_enter]
        rfl
      have hclient : e.invocation.client = x.invocation.client := by
        rw [client_of_endsFrom hskip' he, Builtin.invocation_enter]
      rcases outcome_leave_eq_failure he hclient hf with ⟨given, place, horigin⟩ | ⟨g, hg, rfl⟩
      · exact ⟨[], b :: bs, given, place, f, rfl, horigin, rfl⟩
      · obtain ⟨outer, inner, given, place, g₀, rfl, horigin, rfl⟩ := ih hskip' he hg
        refine ⟨b :: outer, inner, given, place, g₀, rfl, horigin, ?_⟩
        rw [hcodes]
        rfl

/-- Marking adds the frames of the stages, the innermost first, and changes nothing else. -/
theorem markAll_eq (codes : CodeRegistry) (outer : List Builtin) (e : CallFailure) :
    markAll codes outer e =
      { e with fault.stack := e.fault.stack ++ Builtin.stamps codes outer e.fault.code } := by
  induction outer with
  | nil => simp [markAll, Builtin.stamps]
  | cons b outer ih =>
    have hcons : markAll codes (b :: outer) e = b.mark codes (markAll codes outer e) := rfl
    rw [hcons, ih, Builtin.mark]
    cases hb : b.passing? with
    | none => simp [hb, Builtin.stamps]
    | some place =>
      simp [hb, Builtin.stamps, CallFailure.updateStack, Fault.pushFrame, CodeRegistry.stamp,
        CodeRegistry.frame, Fault.code]

end Chain

namespace Client

/-- The history of a failed call.  The failure has an origin in the chain of the call; it has the code,
the description and the response of its origin; its history is that of its origin and then one frame for
each marking stage outside the origin, the innermost first, at the place of that stage; no two places
leave the same frame; and every one of these frames carries the identity of the client's service, the
code of the failure and its place. -/
theorem invoke_failure_history {c : Client} {catalog : Catalog} {ctx : CallContext}
    {method target : String} {body : RequestBody} {reply reply' : Option ρ}
    {options : List CallOption} {bs : List Builtin} {w w' : World} {f : CallFailure}
    (hchain : c.HasChain catalog options bs) (hskip : Skipper.any c.skippers method target = false)
    (h : Work.Ends R (c.invoke catalog ctx method target body reply options) w
      (.ok (.error f), reply') w') :
    ∃ (outer inner : List Builtin) (given : List String) (place : Place) (e : CallFailure)
        (frame : Place → Frame),
      bs = outer ++ inner ∧
      Chain.Origin R c.skippers
        (Builtin.enterAll outer (c.entranceOf catalog ctx method target body reply options w))
        inner given place e ∧
      f.fault.coder = e.fault.coder ∧ f.fault.description = e.fault.description ∧
      f.response = e.response ∧
      e.fault.stack = given ++ [(frame place).render] ∧
      f.fault.stack =
        e.fault.stack ++ (outer.reverse.filterMap Builtin.passing?).map (fun p => (frame p).render) ∧
      frame.Injective ∧
      ∀ p, (frame p).host = c.settings.codes.service.host ∧
        (frame p).pid = toString c.settings.codes.service.pid ∧
        (frame p).module = c.settings.codes.service.module ∧ (frame p).code = toString e.fault.code ∧
        (frame p).file = Text.shortPath (c.settings.codes.site p).file ∧
        (frame p).line = toString (c.settings.codes.site p).line := by
  obtain ⟨i', hends, -⟩ := (ends_invoke_iff hchain).mp ⟨w', h, rfl⟩
  obtain ⟨outer, inner, given, place, e, hbs, horigin, rfl⟩ :=
    Chain.endsFrom_failure hskip hends rfl
  have hcodes : (Builtin.enterAll outer
      (c.entranceOf catalog ctx method target body reply options w)).invocation.codes =
        c.settings.codes := by
    rw [Builtin.invocation_enterAll]
    rfl
  have hstack := horigin.stack
  rw [hcodes] at hstack
  refine ⟨outer, inner, given, place, e, c.settings.codes.frame e.fault.code, hbs, horigin, ?_⟩
  rw [Chain.markAll_eq]
  exact ⟨rfl, rfl, rfl, hstack, rfl, c.settings.codes.frame_injective e.fault.code,
    fun p => ⟨rfl, rfl, rfl, rfl, rfl, rfl⟩⟩

/-- A guard inside stages that mark and one that does not. -/
def shielded : List Builtin :=
  [.accessLog, .statusVerdict, .recovery, .statusCodeGate, .certificateGuard]

/-- A client without a certificate: the guard refuses the call, the gate, the verdict and the access log
mark the refusal in this order, and the recovery in between does not. -/
theorem invoke_failure_history_uncertified :
    ∃ (f : CallFailure) (w' : World),
      Work.Ends Work.alone
        ((scripted .ok shielded).invoke .standard (.ofToken ⟨[0]⟩) "GET" "/" .empty
          (none : Option Json) [])
        .initial (.ok (.error f), none) w' ∧
      f.fault.stack =
        [.guardRefuses, .gatePasses, .verdictPasses, .accessLog].map (fun p =>
          ((scripted .ok shielded).settings.codes.frame Codes.clientCertificate p).render) ∧
      ∃ (outer inner : List Builtin) (given : List String) (place : Place) (e : CallFailure)
          (frame : Place → Frame),
        shielded = outer ++ inner ∧ f.fault.coder = e.fault.coder ∧
        e.fault.stack = given ++ [(frame place).render] ∧
        f.fault.stack =
          e.fault.stack ++ (outer.reverse.filterMap Builtin.passing?).map (fun p => (frame p).render) ∧
        frame.Injective := by
  have hmode : (scripted .ok shielded).settings.mode ≠ .mutualTls := by decide
  let x : Entrance Json := (scripted .ok shielded).entranceOf .standard (.ofToken ⟨[0]⟩) "GET" "/"
    .empty (none : Option Json) [] .initial
  have hpasses (b : Builtin) (hb : b ≠ .certificateGuard) (y : Entrance Json) :
      ¬ b.Refuses y.invocation := fun h => hb h.1
  have hguard : Chain.EndsFrom Work.alone [] [.certificateGuard]
      (Builtin.enterAll [.accessLog, .statusVerdict, .recovery, .statusCodeGate] x) _ :=
    Chain.endsFrom_cons_of_refuses rfl ⟨rfl, hmode⟩
  have hgate := Chain.endsFrom_cons_of_passes rfl (hpasses .statusCodeGate (by decide) _) hguard
  have hrecovery := Chain.endsFrom_cons_of_passes rfl (hpasses .recovery (by decide) _) hgate
  have hverdict := Chain.endsFrom_cons_of_passes rfl (hpasses .statusVerdict (by decide) _) hrecovery
  have hlog := Chain.endsFrom_cons_of_passes rfl (hpasses .accessLog (by decide) x) hverdict
  have hchain : (scripted .ok shielded).HasChain .standard [] shielded := hasChain_scripted .ok _ rfl
  obtain ⟨w', h, -⟩ := (ends_invoke_iff hchain).mpr ⟨_, hlog, rfl⟩
  obtain ⟨outer, inner, given, place, e, frame, hbs, -, hcoder, -, -, hstack, hstack', hframe, -⟩ :=
    invoke_failure_history hchain rfl h
  exact ⟨_, w', h, rfl, outer, inner, given, place, e, frame, hbs, hcoder, hstack, hstack', hframe⟩

end Client

end CallChain
