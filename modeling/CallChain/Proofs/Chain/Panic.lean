import CallChain.Proofs.Chain.Course
import CallChain.Proofs.Chain.FailureHistory
import CallChain.Proofs.Exchange.Panic
import CallChain.Proofs.Fault.Registry
import Mathlib.Data.List.TakeWhile

/-!
# What a chain makes of a panic

A panic passes the stages up to the innermost recovery.  That makes a failure of it, and the stages outside
mark the failure as they mark every other: `PanicOutcome` says what comes out, and `leaveAll_panic_outcome`
that it does.  The way in through a recovery forgets the place of an older panic
(`enterAll_withSite`), so that a call with a recovery goes the same way whatever place was left behind.
-/

set_option autoImplicit false

namespace CallChain

variable {ρ : Type} {R : Resumption} {skippers : List Skipper}

/-- The frame that a place in a program gets under the unknown code. -/
def Recovery.frameOf (codes : CodeRegistry) (site : CallSite) : String :=
  (Frame.capture codes.service Codes.unknown site).render

/-- The failure that a panic comes to outside the innermost recovery and the stages around it. -/
def Recovery.failureOf (codes : CodeRegistry) (outer : List Builtin) (p : Panic)
    (site : Option CallSite) : CallFailure where
  fault :=
    { coder := Codes.unknownCode
      description := "panic: " ++ p.payload.getD "unknown panic"
      stack := frameOf codes (site.getD (codes.site .panicUnseen)) ::
        codes.stamp .recovered Codes.unknown :: Builtin.stamps codes outer Codes.unknown }
  response := none

/-- What a panic that was raised below stages comes to, and the place it was recorded at. -/
inductive Chain.PanicOutcome (codes : CodeRegistry) (bs : List Builtin) (p : Panic)
    (site : Option CallSite) : Except Panic CallResult → Prop where
  /-- Without a recovery it reaches the caller. -/
  | uncaught : .recovery ∉ bs → PanicOutcome codes bs p site (.error p)
  /-- The innermost recovery catches it. -/
  | caught {outer inner : List Builtin} : bs = outer ++ .recovery :: inner → .recovery ∉ inner →
      PanicOutcome codes bs p site (.ok (.error (Recovery.failureOf codes outer p site)))

namespace Builtin

/-- There is one innermost recovery. -/
theorem innermost_unique {outer outer' inner inner' : List Builtin}
    (h : outer ++ recovery :: inner = outer' ++ recovery :: inner') (hinner : recovery ∉ inner)
    (hinner' : recovery ∉ inner') : outer = outer' := by
  -- A longer list of stages outside would have the other recovery further in.
  have hshorter {t inner inner' : List Builtin} (hinner : recovery ∉ inner)
      (h : recovery :: inner = t ++ recovery :: inner') : t = [] := by
    cases t with
    | nil => rfl
    | cons b t =>
      obtain ⟨-, rfl⟩ := List.cons.inj h
      exact absurd (List.mem_append_right t List.mem_cons_self) hinner
  rcases List.append_eq_append_iff.mp h with ⟨t, rfl, ht⟩ | ⟨t, rfl, ht⟩
  · rw [hshorter hinner ht, List.append_nil]
  · rw [hshorter hinner' ht, List.append_nil]

/-- The innermost recovery among stages. -/
theorem exists_innermost {bs : List Builtin} (h : recovery ∈ bs) :
    ∃ outer inner, bs = outer ++ recovery :: inner ∧ recovery ∉ inner := by
  induction bs with
  | nil => cases h
  | cons b bs ih =>
    by_cases hmem : recovery ∈ bs
    · obtain ⟨outer, inner, rfl, hinner⟩ := ih hmem
      exact ⟨b :: outer, inner, rfl, hinner⟩
    · obtain rfl : recovery = b := (List.mem_cons.mp h).resolve_right hmem
      exact ⟨[], bs, rfl, hmem⟩

section

variable [Reply ρ] {codes : CodeRegistry} {i : Invocation ρ} {v : World} {p : Panic}

theorem leaveAll_append (outer inner : List Builtin) (codes : CodeRegistry)
    (d : Departure ρ CallResult) :
    leaveAll (outer ++ inner) codes d = leaveAll outer codes (leaveAll inner codes d) :=
  List.foldr_append

/-- A failure leaves marked by every stage that marks, and nothing else changes. -/
theorem leaveAll_failure (hcodes : i.codes = codes) (bs : List Builtin) (e : CallFailure) :
    leaveAll bs codes ⟨.ok (.error e), i, v⟩ = ⟨.ok (.error (Chain.markAll codes bs e)), i, v⟩ := by
  induction bs with
  | nil => rfl
  | cons b bs ih =>
    show b.leave codes (leaveAll bs codes _) = _
    rw [ih, leave_failure hcodes rfl]
    rfl

/-- The failure of a recovery, marked by the stages outside it. -/
theorem markAll_faultOf (hbuilt : codes.Built) (outer : List Builtin) (p : Panic)
    (site : Option CallSite) :
    Chain.markAll codes outer (.new (Recovery.faultOf codes site p)) =
      Recovery.failureOf codes outer p site := by
  have hfault : Recovery.faultOf codes site p =
      ⟨Codes.unknownCode, "panic: " ++ p.payload.getD "unknown panic",
        [Recovery.frameOf codes (site.getD (codes.site .panicUnseen)),
          codes.stamp .recovered Codes.unknown]⟩ := by
    unfold Recovery.faultOf Fault.wrap Fault.pushFrame
    rw [hbuilt.lookup_unknown]
    rfl
  rw [Chain.markAll_eq, hfault]
  rfl

/-- What comes back without a panic leaves without one. -/
theorem exists_result_leaveAll (bs : List Builtin) (codes : CodeRegistry) (r : CallResult)
    (i : Invocation ρ) (v : World) : ∃ r', (leaveAll bs codes ⟨.ok r, i, v⟩).outcome = .ok r' := by
  induction bs with
  | nil => exact ⟨r, rfl⟩
  | cons b bs ih =>
    show ∃ r', (b.leave codes (leaveAll bs codes ⟨.ok r, i, v⟩)).outcome = .ok r'
    generalize leaveAll bs codes ⟨.ok r, i, v⟩ = d at ih
    obtain ⟨o, j, v'⟩ := d
    obtain ⟨f | response, rfl⟩ := ih
    · cases b <;> exact ⟨_, rfl⟩
    · -- The response is still there, and a panic would not carry it.
      have hcarried := carried?_leave b codes ⟨.ok (.ok response), j, v'⟩
      cases ho : (b.leave codes ⟨.ok (.ok response), j, v'⟩).outcome with
      | ok r' => exact ⟨r', rfl⟩
      | error p =>
        rw [ho] at hcarried
        cases hcarried

/-- A panic comes out as its outcome and leaves the reply, the lock and the connection alone. -/
theorem leaveAll_panic_outcome (hbuilt : codes.Built) (hcodes : i.codes = codes)
    (bs : List Builtin) :
    ∃ o v', Chain.PanicOutcome codes bs p v.panicSite o ∧ v.Spared v' ∧
      leaveAll bs codes ⟨.error p, i, v⟩ = ⟨o, i, v'⟩ := by
  by_cases hmem : recovery ∈ bs
  · obtain ⟨outer, inner, rfl, hinner⟩ := exists_innermost hmem
    refine ⟨_, { v with panicSite := none }, .caught rfl hinner, ⟨rfl, rfl⟩, ?_⟩
    have hrecovered : leaveAll (recovery :: inner) codes ⟨.error p, i, v⟩ =
        ⟨.ok (.error (.new (Recovery.faultOf codes v.panicSite p))), i,
          { v with panicSite := none }⟩ := by
      show Recovery.leave (leaveAll inner codes _) = _
      rw [leaveAll_panic hinner, ← hcodes]
      rfl
    rw [leaveAll_append, hrecovered, leaveAll_failure hcodes, markAll_faultOf hbuilt]
  · exact ⟨_, v, .uncaught hmem, .refl v, leaveAll_panic hmem⟩

end

end Builtin

/-- A panic has one outcome. -/
theorem Chain.PanicOutcome.unique {codes : CodeRegistry} {bs : List Builtin} {p : Panic}
    {site : Option CallSite} {o o' : Except Panic CallResult} (h : PanicOutcome codes bs p site o)
    (h' : PanicOutcome codes bs p site o') : o = o' := by
  cases h with
  | uncaught hnot =>
    cases h' with
    | uncaught => rfl
    | caught hbs _ =>
      rw [hbs] at hnot
      exact absurd (List.mem_append_right _ List.mem_cons_self) hnot
  | caught hbs hinner =>
    cases h' with
    | uncaught hnot =>
      rw [hbs] at hnot
      exact absurd (List.mem_append_right _ List.mem_cons_self) hnot
    | caught hbs' hinner' => rw [Builtin.innermost_unique (hbs.symm.trans hbs') hinner hinner']

/-! ## The place of an older panic -/

/-- The world with the place of a panic that nobody looked at. -/
def World.withSite (w : World) (site : Option CallSite) : World := { w with panicSite := site }

/-- What a call goes in with, and the place of an older panic. -/
def Entrance.withSite (x : Entrance ρ) (site : Option CallSite) : Entrance ρ :=
  { x with world := x.world.withSite site }

namespace Builtin

/-- A stage that is no recovery does not look at the place. -/
theorem enter_withSite {b : Builtin} (hb : b ≠ recovery) (x : Entrance ρ) (site : Option CallSite) :
    b.enter (x.withSite site) = (b.enter x).withSite site := by
  cases b with
  | recovery => exact absurd rfl hb
  | requestId =>
    have hdrawn : RequestId.drawnFor x.context (x.world.withSite site) =
        (RequestId.drawnFor x.context x.world).withSite site := by
      unfold RequestId.drawnFor
      split <;> rfl
    show (⟨_, _, RequestId.drawnFor x.context (x.world.withSite site)⟩ : Entrance ρ) = _
    rw [hdrawn]
    rfl
  | callSpan =>
    have hlogged (ctx : CallContext) (fields : List (String × String)) (w : World) :
        CallSpan.logged ctx fields (w.withSite site) = (CallSpan.logged ctx fields w).withSite site := by
      induction fields generalizing w with
      | nil => rfl
      | cons f rest ih => exact ih (w.record _)
    show (⟨_, _, CallSpan.logged _ _ (x.world.withSite site)⟩ : Entrance ρ) = _
    rw [hlogged]
    rfl
  | accessLog | statusVerdict | statusCodeGate | certificateGuard => rfl

/-- On the way in through a recovery the place of an older panic is forgotten. -/
theorem enterAll_withSite (bs : List Builtin) (x : Entrance ρ) (site : Option CallSite) :
    enterAll bs (x.withSite site) =
      if recovery ∈ bs then enterAll bs x else (enterAll bs x).withSite site := by
  induction bs generalizing x with
  | nil => rfl
  | cons b bs ih =>
    rw [enterAll_cons, enterAll_cons]
    by_cases hb : b = recovery
    · subst hb
      rw [if_pos List.mem_cons_self]
      rfl
    · rw [enter_withSite hb, ih]
      simp only [List.mem_cons, Ne.symm hb, false_or]

end Builtin

namespace Chain

open Call (Ends)

variable [Reply ρ] {bs : List Builtin} {x : Entrance ρ} {d : Departure ρ CallResult}

omit [Reply ρ] in
theorem passed_of_not_refused
    (hskip : Skipper.any skippers x.invocation.method x.invocation.target = false)
    (hpasses : ¬ Refused skippers bs x.invocation) : passed skippers bs x.invocation = bs := by
  unfold passed
  rw [if_neg (by rw [hskip]; exact Bool.false_ne_true)]
  refine List.takeWhile_eq_self_iff.mpr fun b hb => ?_
  simpa using fun hrefuses => hpasses ⟨hskip, b, hb, hrefuses⟩

/-- A call that no guard refuses leaves through all of its stages. -/
theorem endsFrom_iff_of_passes
    (hskip : Skipper.any skippers x.invocation.method x.invocation.target = false)
    (hpasses : ¬ Refused skippers bs x.invocation) :
    EndsFrom R skippers bs x d ↔
      ∃ e, Ends R (Exchange.run (Builtin.enterAll bs x).context) (Builtin.enterAll bs x).invocation
          (Builtin.enterAll bs x).world e ∧ d = Builtin.leaveAll bs x.invocation.codes e := by
  simp only [endsFrom_iff_trip, Exchange.ends_run_iff, Exchange.ends_fetch_iff_course]
  constructor
  · rintro ⟨t, ⟨hr, -⟩ | ⟨-, rfl, hcourse⟩⟩
    · exact absurd hr hpasses
    · rw [passed_of_not_refused hskip hpasses] at hcourse ⊢
      exact ⟨_, ⟨_, ⟨t, hcourse⟩, rfl⟩, rfl⟩
  · rintro ⟨_, ⟨e, ⟨t, hcourse⟩, rfl⟩, rfl⟩
    have hpassed := passed_of_not_refused hskip hpasses
    rw [← hpassed] at hcourse
    have htrip := Trip.fetched hpasses rfl hcourse
    rw [hpassed] at htrip
    exact ⟨t, htrip⟩

/-- A call that a guard refuses leaves through the stages outside the guard. -/
theorem endsFrom_iff_of_refused (hrefused : Refused skippers bs x.invocation) :
    EndsFrom R skippers bs x d ↔
      d = Builtin.leaveAll (passed skippers bs x.invocation) x.invocation.codes
        ⟨.ok (.error (CertificateGuard.refusal x.invocation.client)),
          (Builtin.enterAll (passed skippers bs x.invocation) x).invocation,
          (Builtin.enterAll (passed skippers bs x.invocation) x).world.quiet⟩ := by
  rw [endsFrom_iff_trip]
  constructor
  · rintro ⟨t, ⟨-, rfl⟩ | ⟨hpasses, -⟩⟩
    · rfl
    · exact absurd hrefused hpasses
  · rintro rfl
    exact ⟨none, .refused hrefused rfl⟩

/-- A call with a recovery ends in the same ways whatever place an older panic left behind. -/
theorem endsFrom_withSite_iff
    (hskip : Skipper.any skippers x.invocation.method x.invocation.target = false)
    (hmem : .recovery ∈ bs) (site : Option CallSite) {o : Except Panic CallResult}
    {i : Invocation ρ} :
    (∃ v, EndsFrom R skippers bs (x.withSite site) ⟨o, i, v⟩) ↔
      ∃ v, EndsFrom R skippers bs x ⟨o, i, v⟩ := by
  by_cases hrefused : Refused skippers bs x.invocation
  · -- The refusal shows nothing of the world.
    have hrefused' : Refused skippers bs (x.withSite site).invocation := hrefused
    have hinvocation : (Builtin.enterAll (passed skippers bs x.invocation)
        (x.withSite site)).invocation =
          (Builtin.enterAll (passed skippers bs x.invocation) x).invocation := by
      rw [Builtin.enterAll_withSite]
      split <;> rfl
    have hcodes : (Builtin.enterAll (passed skippers bs x.invocation) x).invocation.codes =
        x.invocation.codes := by
      rw [Builtin.invocation_enterAll]
      rfl
    simp only [endsFrom_iff_of_refused hrefused, endsFrom_iff_of_refused hrefused',
      show (x.withSite site).invocation = x.invocation from rfl, hinvocation,
      Builtin.leaveAll_failure hcodes, Departure.mk.injEq, exists_and_left, exists_eq]
  · have hpasses' : ¬ Refused skippers bs (x.withSite site).invocation := hrefused
    have hskip' : Skipper.any skippers (x.withSite site).invocation.method
        (x.withSite site).invocation.target = false := hskip
    have henter : Builtin.enterAll bs (x.withSite site) = Builtin.enterAll bs x := by
      rw [Builtin.enterAll_withSite, if_pos hmem]
    simp only [endsFrom_iff_of_passes hskip hrefused, endsFrom_iff_of_passes hskip' hpasses', henter,
      show (x.withSite site).invocation = x.invocation from rfl]

end Chain

end CallChain
