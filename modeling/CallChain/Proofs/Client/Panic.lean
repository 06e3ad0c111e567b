import CallChain.Proofs.Chain.Panic
import CallChain.Proofs.Chain.Reply
import CallChain.Proofs.Client.Reordering
import CallChain.Stages.Scripted

/-!
# Calls that panic

A panic below the stages of a call ends in one of two ways.  Without a recovery the caller has it; with one
the call fails, and the failure names the place of the panic, then the innermost recovery and the marking
stages around it.  Either way the reply is untouched and the client can be used: the connection survives a
panic in sending, and a dial that panics leaves neither a connection nor a claim on the lock.
`invoke_panicsContained` says all of this of calls.
-/

set_option autoImplicit false

namespace CallChain

open Call (Ends)

variable {ρ : Type} [Reply ρ] {R : Resumption}

namespace Chain

variable {skippers : List Skipper} {bs : List Builtin} {x : Entrance ρ}

/-- No guard refuses the call, and its exchange panics. -/
def PanicsBelow (R : Resumption) (skippers : List Skipper) (bs : List Builtin) (x : Entrance ρ)
    (s : Exchange.Source) (p : Panic) (v : World) : Prop :=
  ¬ Refused skippers bs x.invocation ∧
    Exchange.Panics R (Builtin.enterAll bs x).context (Builtin.enterAll bs x).invocation
      (Builtin.enterAll bs x).world s p v

/-- What comes back through the stages is the refusal of a guard, or what an exchange came to that did not
panic. -/
inductive Returns (R : Resumption) (skippers : List Skipper) (bs : List Builtin) (x : Entrance ρ) :
    Departure ρ CallResult → Prop where
  | refused {j : Invocation ρ} {v : World} : Refused skippers bs x.invocation →
      Returns R skippers bs x
        (Builtin.leaveAll (passed skippers bs x.invocation) x.invocation.codes
          ⟨.ok (.error (CertificateGuard.refusal x.invocation.client)), j, v⟩)
  | fetched {r : CallResult} {j : Invocation ρ} {v : World} : ¬ Refused skippers bs x.invocation →
      Ends R (Exchange.run (Builtin.enterAll bs x).context) (Builtin.enterAll bs x).invocation
        (Builtin.enterAll bs x).world ⟨.ok r, j, v⟩ →
      Returns R skippers bs x (Builtin.leaveAll bs x.invocation.codes ⟨.ok r, j, v⟩)

theorem Returns.exists_result {d : Departure ρ CallResult} (h : Returns R skippers bs x d) :
    ∃ r, d.outcome = .ok r := by
  cases h with
  | refused | fetched => exact Builtin.exists_result_leaveAll _ _ _ _ _

/-- A panic of the exchange comes out as its outcome. -/
theorem leaveAll_center (bs : List Builtin) (hbuilt : x.invocation.codes.Built) (p : Panic)
    (v : World) :
    ∃ o v', PanicOutcome x.invocation.codes bs p v.panicSite o ∧ v.Spared v' ∧
      Builtin.leaveAll bs x.invocation.codes
        ⟨.error p, (Builtin.enterAll bs x).invocation, v.quiet⟩ =
          ⟨o, (Builtin.enterAll bs x).invocation, v'⟩ := by
  have hcodes : (Builtin.enterAll bs x).invocation.codes = x.invocation.codes := by
    rw [Builtin.invocation_enterAll]
    rfl
  obtain ⟨o, v', houtcome, hspared, hleave⟩ :=
    Builtin.leaveAll_panic_outcome (v := v.quiet) (p := p) hbuilt hcodes bs
  exact ⟨o, v', houtcome, ⟨hspared.lock, hspared.connection⟩, hleave⟩

section

variable (hbuilt : x.invocation.codes.Built)
  (hskip : Skipper.any skippers x.invocation.method x.invocation.target = false)

include hbuilt hskip

/-- A chain below which a panic is raised ends with the outcome of the panic. -/
theorem exists_endsFrom_of_panicsBelow {s : Exchange.Source} {p : Panic} {v : World}
    (h : PanicsBelow R skippers bs x s p v) :
    ∃ o v', PanicOutcome x.invocation.codes bs p v.panicSite o ∧ v.Spared v' ∧
      EndsFrom R skippers bs x ⟨o, (Builtin.enterAll bs x).invocation, v'⟩ := by
  obtain ⟨hpasses, hpanics⟩ := h
  obtain ⟨o, v', houtcome, hspared, hleave⟩ := leaveAll_center bs hbuilt p v
  refine ⟨o, v', houtcome, hspared, ?_⟩
  rw [endsFrom_iff_of_passes hskip hpasses]
  exact ⟨_, Exchange.ends_run_panic_iff.mpr ⟨rfl, s, v, hpanics, rfl⟩, hleave.symm⟩

/-- It ends in no other way, unless nothing below it panics. -/
theorem endsFrom_cases {d : Departure ρ CallResult} (h : EndsFrom R skippers bs x d) :
    (∃ s p v, PanicsBelow R skippers bs x s p v ∧
      PanicOutcome x.invocation.codes bs p v.panicSite d.outcome ∧
      d.invocation = (Builtin.enterAll bs x).invocation ∧ v.Spared d.world) ∨
    Returns R skippers bs x d := by
  by_cases hrefused : Refused skippers bs x.invocation
  · rw [endsFrom_iff_of_refused hrefused] at h
    subst h
    exact .inr (.refused hrefused)
  · obtain ⟨⟨p | r, j, v⟩, he, rfl⟩ := (endsFrom_iff_of_passes hskip hrefused).mp h
    · obtain ⟨rfl, s, w', hpanics, rfl⟩ := Exchange.ends_run_panic_iff.mp he
      obtain ⟨o, v', houtcome, hspared, hleave⟩ := leaveAll_center bs hbuilt p w'
      rw [hleave]
      exact .inl ⟨s, p, w', ⟨hrefused, hpanics⟩, houtcome, rfl, hspared⟩
    · exact .inr (.fetched hrefused he)

end

omit [Reply ρ] in
/-- What a panic below the stages leaves of the connection. -/
theorem PanicsBelow.leaves (hR : R.Undisturbed) (hkeeps : x.invocation.info.Keeps World.Spared)
    (hconnector : x.invocation.client.connector.Spares)
    (hsending : x.invocation.client.connector.SparesSending) (hsound : x.world.lock.Sound)
    {s : Exchange.Source} {p : Panic} {v : World} (h : PanicsBelow R skippers bs x s p v) :
    s.Leaves x.world v := by
  obtain ⟨-, hpanics⟩ := h
  have hworld := (Builtin.Entered.enterAll bs x).world
  have hspared : x.world.Spared (Builtin.enterAll bs x).world :=
    ⟨(congrArg World.lock hworld :), (congrArg World.connection hworld :)⟩
  have hclient : (Builtin.enterAll bs x).invocation.client = x.invocation.client := by
    rw [Builtin.invocation_enterAll]
  rw [← hclient] at hconnector hsending
  rw [← hspared.lock] at hsound
  have hleaves := hpanics.leaves hR (Builtin.keeps_enterAll hkeeps bs) hconnector hsending hsound
  exact hleaves.of_spared hspared (.refl v)

end Chain

namespace Client

/-- The place of an older panic is no matter for the warnings. -/
theorem warned_withSite (c : Client) (catalog : Catalog) (options : List CallOption) (w : World)
    (site : Option CallSite) :
    c.warned catalog options (w.withSite site) = (c.warned catalog options w).withSite site := by
  unfold warned
  generalize (c.chainFor catalog (c.optionsOf options)).2 = records
  induction records generalizing w with
  | nil => rfl
  | cons r rest ih => exact ih (w.record (.logged r))

theorem spared_warned (c : Client) (catalog : Catalog) (options : List CallOption) (w : World) :
    w.Spared (c.warned catalog options w) := by
  have hquiet := quiet_warned c catalog options w
  exact ⟨(congrArg World.lock hquiet :), (congrArg World.connection hquiet :)⟩

/-- What becomes of the panics below the stages of a call. -/
structure PanicsContained (R : Resumption) (c : Client) (catalog : Catalog) (ctx : CallContext)
    (method target : String) (body : RequestBody) (reply : Option ρ) (options : List CallOption)
    (bs : List Builtin) (w : World) : Prop where
  /-- A call below whose stages a panic is raised ends with the outcome of the panic and with the reply as it
  was, and leaves the connection as the panic did. -/
  ends : ∀ s p v, Chain.PanicsBelow R c.skippers bs
      (c.entranceOf catalog ctx method target body reply options w) s p v →
    ∃ o w', Chain.PanicOutcome c.settings.codes bs p v.panicSite o ∧ v.Spared w' ∧
      Work.Ends R (c.invoke catalog ctx method target body reply options) w (o, reply) w'
  /-- A call ends in no other way, unless nothing below its stages panics; then it has a result. -/
  only : ∀ o reply' w', Work.Ends R (c.invoke catalog ctx method target body reply options) w
      (o, reply') w' →
    (∃ s p v, Chain.PanicsBelow R c.skippers bs
        (c.entranceOf catalog ctx method target body reply options w) s p v ∧
      Chain.PanicOutcome c.settings.codes bs p v.panicSite o ∧ reply' = reply ∧ v.Spared w') ∨
    ∃ r i', o = .ok r ∧ Chain.Returns R c.skippers bs
      (c.entranceOf catalog ctx method target body reply options w) ⟨o, i', w'.quiet⟩
  /-- Behind a recovery the exchange begins without the place of an older panic. -/
  fresh : .recovery ∈ bs → (Builtin.enterAll bs
    (c.entranceOf catalog ctx method target body reply options w)).world.panicSite = none
  /-- With a recovery, a call has the same results whatever place an older panic left behind. -/
  forgets : .recovery ∈ bs → ∀ site r,
    (∃ w', Work.Ends R (c.invoke catalog ctx method target body reply options) (w.withSite site) r w') ↔
      ∃ w', Work.Ends R (c.invoke catalog ctx method target body reply options) w r w'
  /-- If nobody else uses it, the connection is what the source of the panic leaves of it. -/
  leaves : R.Undisturbed → (CallInfo.ofOptions (c.optionsOf options)).Keeps World.Spared →
    c.settings.connector.Spares → c.settings.connector.SparesSending → w.lock.Sound →
    ∀ s p v w', Chain.PanicsBelow R c.skippers bs
        (c.entranceOf catalog ctx method target body reply options w) s p v →
      v.Spared w' → s.Leaves w w'
  /-- Among other tasks, too, a dial that panics leaves no connection and no ticket behind. -/
  dialAmongOthers : c.settings.connector.Spares → ∀ {ι : Type} [DecidableEq ι]
    (pool pool' : Dialer.Pool ι) (i : ι) (p : Panic), Dialer.Reachable c.settings.toDialer pool →
    Dialer.Step c.settings.toDialer pool (.acted i) pool' →
    (pool.task i).dial = .inFlight (.done (.error p)) →
      pool'.world.connection = none ∧
        ∀ n, (pool'.task i).ticket = some n → n ∉ pool'.world.lock.tickets
  /-- No step of sending a request touches the lock or the connection, whatever others do. -/
  sendAmongOthers : c.settings.connector.SparesSending →
    ∀ ctx' conn q place, (Exchange.sending ctx' c.settings.connector conn q place).Spares

/-- Every panic below the stages of a call is contained. -/
theorem invoke_panicsContained {c : Client} {catalog : Catalog} {ctx : CallContext}
    {method target : String} {body : RequestBody} {reply : Option ρ} {options : List CallOption}
    {bs : List Builtin} {w : World} (hchain : c.HasChain catalog options bs)
    (hskip : Skipper.any c.skippers method target = false) (hbuilt : c.settings.codes.Built) :
    PanicsContained R c catalog ctx method target body reply options bs w := by
  have hreply : (Builtin.enterAll bs (c.entranceOf catalog ctx method target body reply options
      w)).invocation.reply.value? = reply := by
    rw [Builtin.invocation_enterAll]
    exact ReplySlot.value?_ofOption reply
  constructor
  case ends =>
    intro s p v hpanics
    obtain ⟨o, v', houtcome, hspared, hends⟩ :=
      Chain.exists_endsFrom_of_panicsBelow
        (x := c.entranceOf catalog ctx method target body reply options w) hbuilt hskip hpanics
    obtain ⟨w', hinvoke, rfl⟩ := (ends_invoke_iff hchain).mpr ⟨_, hends, hreply.symm⟩
    exact ⟨o, w', houtcome, ⟨hspared.lock, hspared.connection⟩, hinvoke⟩
  case only =>
    intro o reply' w' h
    obtain ⟨i', hends, rfl⟩ := (ends_invoke_iff hchain).mp ⟨w', h, rfl⟩
    rcases Chain.endsFrom_cases
        (x := c.entranceOf catalog ctx method target body reply options w) hbuilt hskip hends with
      ⟨s, p, v, hpanics, houtcome, rfl, hspared⟩ | hreturns
    · exact .inl ⟨s, p, v, hpanics, houtcome, hreply, ⟨hspared.lock, hspared.connection⟩⟩
    · obtain ⟨r, hr⟩ := hreturns.exists_result
      exact .inr ⟨r, i', hr, hreturns⟩
  case fresh =>
    intro hmem
    have hworld := (Builtin.Entered.enterAll bs
      (c.entranceOf catalog ctx method target body reply options w)).world
    rw [if_pos hmem] at hworld
    exact (congrArg World.panicSite hworld :)
  case forgets =>
    rintro hmem site ⟨o, reply'⟩
    have hresults (w : World) :
        (∃ w', Work.Ends R (c.invoke catalog ctx method target body reply options) w (o, reply') w') ↔
          ∃ i', (∃ v, Chain.EndsFrom R c.skippers bs
            (c.entranceOf catalog ctx method target body reply options w) ⟨o, i', v⟩) ∧
              reply' = i'.reply.value? := by
      constructor
      · rintro ⟨w', h⟩
        obtain ⟨i', hends, hvalue⟩ := (ends_invoke_iff hchain).mp ⟨w', h, rfl⟩
        exact ⟨i', ⟨_, hends⟩, hvalue⟩
      · rintro ⟨i', ⟨v, hends⟩, hvalue⟩
        obtain ⟨w', h, -⟩ := (ends_invoke_iff hchain).mpr ⟨i', hends, hvalue⟩
        exact ⟨w', h⟩
    have hentrance : c.entranceOf catalog ctx method target body reply options (w.withSite site) =
        (c.entranceOf catalog ctx method target body reply options w).withSite site := by
      unfold entranceOf
      rw [warned_withSite]
      rfl
    rw [hresults, hresults, hentrance]
    refine exists_congr fun i' => and_congr_left fun _ => ?_
    exact Chain.endsFrom_withSite_iff hskip hmem site
  case leaves =>
    intro hR hkeeps hconnector hsending hsound s p v w' hpanics hspared
    have hwarned := spared_warned c catalog options w
    rw [← hwarned.lock] at hsound
    have hleaves := Chain.PanicsBelow.leaves
      (x := c.entranceOf catalog ctx method target body reply options w) hR hkeeps hconnector hsending
      hsound hpanics
    exact hleaves.of_spared hwarned hspared
  case dialAmongOthers =>
    intro hconnector ι _ pool pool' i p hreachable hstep hdial
    exact (hreachable.inv hconnector).of_dial_panic hconnector hstep hdial
  case sendAmongOthers =>
    exact fun hsending ctx' conn q place => Exchange.spares_sending hsending ctx' conn q place

/-- A place that an older panic left behind. -/
def staleSite : CallSite := ⟨"orders", 3, "list"⟩

def crashSite : CallSite := ⟨"orders", 7, "answer"⟩

/-- A remote side whose handler panics. -/
def crashing : ScriptedRemote := .answering fun _ => Attempt.panicAt ⟨some "boom"⟩ (some crashSite)

/-- Stages with one recovery within another. -/
def nestedRecoveries : List Builtin :=
  [.statusVerdict, .recovery, .accessLog, .recovery, .statusCodeGate]

/-- The handler panics after the dial.  The inner recovery catches the panic, the access log and the verdict
outside it mark the failure, and the connection stays. -/
theorem invoke_panicsContained_nested :
    ∃ w', Work.Ends Work.alone
        ((scripted crashing nestedRecoveries).invoke .standard (.ofToken ⟨[0]⟩) "GET" "/" .empty
          (some Json.null) [])
        (World.initial.withSite (some staleSite))
        (.ok (.error (Recovery.failureOf (.new ⟨"localhost", 1, "service", .oneFile "library"⟩)
          [.statusVerdict, .recovery, .accessLog] ⟨some "boom"⟩ (some crashSite))), some Json.null) w' ∧
      w'.lock.line = [] ∧ ∃ conn, w'.connection = some conn := by
  let c := scripted crashing nestedRecoveries
  let w := World.initial.withSite (some staleSite)
  have hcontained : PanicsContained Work.alone c .standard (.ofToken ⟨[0]⟩) "GET" "/" .empty
      (some Json.null) [] nestedRecoveries w :=
    invoke_panicsContained (hasChain_scripted crashing _ rfl) rfl (.new _)
  let x : Entrance Json := c.entranceOf .standard (.ofToken ⟨[0]⟩) "GET" "/" .empty (some Json.null) [] w
  let y := Builtin.enterAll nestedRecoveries x
  have hpanics : ∃ v, Exchange.Panics Work.alone y.context y.invocation y.world .send ⟨some "boom"⟩ v ∧
      v.panicSite = some crashSite := by
    obtain ⟨q, conn, v₁, v₂, hready, htaking, hdone, hsending, hsite⟩ : ∃ q conn v₁ v₂,
        Exchange.Readied y.context y.invocation y.world q y.world ∧
        (Exchange.taking y.context y.invocation).run.run y.world =
          some (.ok (some (.ok conn)), v₁) ∧
        y.context.isSignalled v₁ = false ∧
        (Exchange.sending y.context y.invocation.client.connector conn q v₁.nextPlace).run
          v₁.takePlace = some (some (.error ⟨some "boom"⟩), v₂) ∧
        v₂.panicSite = some crashSite := ⟨_, _, _, _, .intro rfl rfl rfl, rfl, rfl, rfl, rfl⟩
    exact ⟨v₂, .send hready (Work.run_eq_some_iff.mp htaking) hdone (Work.run_eq_some_iff.mp hsending),
      hsite⟩
  obtain ⟨v, hpanics, hsite⟩ := hpanics
  have hpasses : ¬ Chain.Refused [] nestedRecoveries x.invocation := by
    rintro ⟨-, b, hb, rfl, -⟩
    exact absurd hb (by decide)
  have hsending : c.settings.connector.SparesSending :=
    fun _ _ => ⟨fun _ => ⟨rfl, rfl⟩, fun _ => ⟨fun _ => ⟨rfl, rfl⟩, fun _ => trivial⟩⟩
  obtain ⟨o, w', houtcome, hspared, hends⟩ := hcontained.ends .send _ v ⟨hpasses, hpanics⟩
  obtain ⟨hline, conn, hconn, -⟩ := hcontained.leaves Work.alone_undisturbed
    ⟨by rintro _ ⟨⟩, by rintro _ ⟨⟩⟩ (Dialer.spares_scripted crashing) hsending Lock.sound_free .send _ v w'
    ⟨hpasses, hpanics⟩ hspared
  rw [hsite] at houtcome
  have hcaught := @Chain.PanicOutcome.caught c.settings.codes nestedRecoveries ⟨some "boom"⟩
    (some crashSite) [.statusVerdict, .recovery, .accessLog] [.statusCodeGate] rfl (by decide)
  rw [houtcome.unique hcaught] at hends
  exact ⟨w', hends, hline, conn, hconn⟩

end Client

end CallChain
