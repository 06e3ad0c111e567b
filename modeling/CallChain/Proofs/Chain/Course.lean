import CallChain.Proofs.Call.Stop
import CallChain.Proofs.Chain.Entering
import CallChain.Proofs.Chain.Leaving
import CallChain.Proofs.Exchange.Course

/-!
# The course of a call through a chain

A call passes the stages up to the guard that refuses it, or all of them.  What comes back is the
refusal, or what the exchange makes of one course of its fetch, and it leaves through the stages that
were passed.  A response is there at the end exactly if the fetch received one (`Trip.carried?_eq`).
-/

set_option autoImplicit false

namespace CallChain

open Exchange (Course Readied Transfer Unready Watches conclusion taking)

variable {ρ : Type} {R : Resumption}

theorem Builtin.carried?_leaveAll [Reply ρ] (bs : List Builtin) (codes : CodeRegistry)
    (d : Departure ρ CallResult) : carried? (leaveAll bs codes d).outcome = carried? d.outcome := by
  induction bs with
  | nil => rfl
  | cons b bs ih => exact (carried?_leave b codes _).trans ih

theorem Builtin.requests_enterAll (bs : List Builtin) (x : Entrance ρ) :
    (enterAll bs x).world.requests = x.world.requests := by
  induction bs generalizing x with
  | nil => rfl
  | cons b bs ih => exact (ih _).trans (requests_enter b x)

/-- On the way in, no time passes and nothing is cancelled. -/
theorem Builtin.sameTime_enterAll (bs : List Builtin) (x : Entrance ρ) :
    x.world.SameTime (enterAll bs x).world := by
  have hworld := (Entered.enterAll bs x).world
  exact ⟨(congrArg World.clock hworld :), (congrArg World.cancelled hworld :),
    (congrArg World.agenda hworld :)⟩

theorem Builtin.sameTime_leave [Reply ρ] (b : Builtin) (codes : CodeRegistry)
    (e : Departure ρ CallResult) : e.world.SameTime (b.leave codes e).world := by
  rw [world_leave]
  exact ⟨rfl, rfl, rfl⟩

/-- On the way out, no time passes either. -/
theorem Builtin.sameTime_leaveAll [Reply ρ] (bs : List Builtin) (codes : CodeRegistry)
    (d : Departure ρ CallResult) : d.world.SameTime (leaveAll bs codes d).world := by
  induction bs with
  | nil => exact .refl _
  | cons b bs ih => exact ih.trans (sameTime_leave b codes _)

/-- On the way in, the context changes in nothing that could stop the call. -/
theorem Builtin.isSignalled_enterAll (bs : List Builtin) (x : Entrance ρ) (w : World) :
    (enterAll bs x).context.isSignalled w = x.context.isSignalled w := by
  have h := Entered.enterAll bs x
  unfold CallContext.isSignalled CallContext.doneGuard
  rw [h.token, h.deadline]

theorem Builtin.keeps_enterAll {r : World → World → Prop} {x : Entrance ρ}
    (h : x.invocation.info.Keeps r) (bs : List Builtin) :
    (enterAll bs x).invocation.info.Keeps r := by
  rw [(Entered.enterAll bs x).info]
  exact ⟨h.resolver, h.process⟩

namespace Chain

/-- The stages a call passes on its way in: none of them if they stand aside, otherwise those before
the first that refuses it. -/
def passed (skippers : List Skipper) (bs : List Builtin) (i : Invocation ρ) : List Builtin :=
  if Skipper.any skippers i.method i.target then [] else bs.takeWhile fun b => !decide (b.Refuses i)

/-- Whether a stage refuses the call. -/
def Refused (skippers : List Skipper) (bs : List Builtin) (i : Invocation ρ) : Prop :=
  Skipper.any skippers i.method i.target = false ∧ ∃ b ∈ bs, b.Refuses i

section

variable {skippers : List Skipper} {bs : List Builtin} {b : Builtin} {i : Invocation ρ}

theorem passed_of_skips (hskip : Skipper.any skippers i.method i.target = true) :
    passed skippers bs i = [] := if_pos hskip

theorem passed_cons_of_refuses (h : b.Refuses i) : passed skippers (b :: bs) i = [] := by
  unfold passed
  split
  · rfl
  · rw [List.takeWhile_cons_of_neg (by simpa using h)]

theorem passed_cons_of_passes (hskip : Skipper.any skippers i.method i.target = false)
    (h : ¬ b.Refuses i) : passed skippers (b :: bs) i = b :: passed skippers bs i := by
  unfold passed
  rw [if_neg (by rw [hskip]; exact Bool.false_ne_true),
    if_neg (by rw [hskip]; exact Bool.false_ne_true), List.takeWhile_cons_of_pos (by simpa using h)]

/-- Entering a stage changes nothing about which stages are passed. -/
theorem passed_enter (skippers : List Skipper) (bs : List Builtin) (b : Builtin) (x : Entrance ρ) :
    passed skippers bs (b.enter x).invocation = passed skippers bs x.invocation ∧
      (Refused skippers bs (b.enter x).invocation ↔ Refused skippers bs x.invocation) := by
  rw [Builtin.invocation_enter]
  exact ⟨rfl, Iff.rfl⟩

theorem refused_cons_iff (h : ¬ b.Refuses i) :
    Refused skippers (b :: bs) i ↔ Refused skippers bs i := by
  simp [Refused, h]

end

variable [Reply ρ]

/-- What a call through a chain can do. -/
inductive Trip (R : Resumption) (skippers : List Skipper) (bs : List Builtin) (x : Entrance ρ) :
    Option Transfer → Departure ρ CallResult → Prop where
  /-- A guard refuses the call, and the refusal leaves through the stages before it. -/
  | refused {y : Entrance ρ} :
      Refused skippers bs x.invocation →
      y = Builtin.enterAll (passed skippers bs x.invocation) x →
      Trip R skippers bs x none
        (Builtin.leaveAll (passed skippers bs x.invocation) x.invocation.codes
          ⟨.ok (.error (CertificateGuard.refusal x.invocation.client)), y.invocation,
            y.world.quiet⟩)
  /-- All stages are passed, and the fetch takes one of its courses. -/
  | fetched {y : Entrance ρ} {t : Option Transfer} {e : Departure ρ CallResult} :
      ¬ Refused skippers bs x.invocation →
      y = Builtin.enterAll (passed skippers bs x.invocation) x →
      Course R y.context y.invocation y.world t e →
      Trip R skippers bs x t
        (Builtin.leaveAll (passed skippers bs x.invocation) x.invocation.codes
          (e.andThen (conclusion y.invocation.info.responseNotParse)))

variable {skippers : List Skipper} {bs : List Builtin} {x : Entrance ρ} {d : Departure ρ CallResult}

/-- The trip through a stage that lets the call through is a trip through the others. -/
theorem trip_cons_iff {b : Builtin} {t : Option Transfer}
    (hskip : Skipper.any skippers x.invocation.method x.invocation.target = false)
    (hpasses : ¬ b.Refuses x.invocation) :
    Trip R skippers (b :: bs) x t d ↔
      ∃ e, Trip R skippers bs (b.enter x) t e ∧ d = b.leave x.invocation.codes e := by
  obtain ⟨hpassed, hrefused⟩ := passed_enter skippers bs b x
  have hcodes : (b.enter x).invocation.codes = x.invocation.codes := by
    rw [Builtin.invocation_enter]
    rfl
  have hclient : (b.enter x).invocation.client = x.invocation.client := by
    rw [Builtin.invocation_enter]
  have hcons : passed skippers (b :: bs) x.invocation = b :: passed skippers bs x.invocation :=
    passed_cons_of_passes hskip hpasses
  rw [← hpassed] at hcons
  constructor
  · rintro (⟨hr, rfl⟩ | ⟨hr, rfl, hcourse⟩)
    · rw [refused_cons_iff hpasses, ← hrefused] at hr
      refine ⟨_, .refused hr rfl, ?_⟩
      rw [hcons, hcodes, hclient]
      rfl
    · rw [refused_cons_iff hpasses, ← hrefused] at hr
      rw [hcons, Builtin.enterAll_cons] at hcourse
      refine ⟨_, .fetched hr rfl hcourse, ?_⟩
      rw [hcons, hcodes]
      rfl
  · rintro ⟨e, ⟨hr, rfl⟩ | ⟨hr, rfl, hcourse⟩, rfl⟩
    · rw [hrefused, ← refused_cons_iff hpasses] at hr
      have h := Trip.refused (R := R) hr rfl
      rw [hcons, ← hcodes, ← hclient] at h
      rw [← hcodes]
      exact h
    · rw [hrefused, ← refused_cons_iff hpasses] at hr
      rw [← Builtin.enterAll_cons, ← hcons] at hcourse
      have h := Trip.fetched hr rfl hcourse
      rw [hcons, ← hcodes] at h
      rw [← hcodes]
      exact h

/-- A chain can take its trips, and no others. -/
theorem endsFrom_iff_trip : EndsFrom R skippers bs x d ↔ ∃ t, Trip R skippers bs x t d := by
  -- Without stages that act, the trip is that of the exchange.
  have hcenter (bs : List Builtin) (x : Entrance ρ) (d : Departure ρ CallResult)
      (hpassed : passed skippers bs x.invocation = []) (hr : ¬ Refused skippers bs x.invocation) :
      Call.Ends R (Exchange.run x.context) x.invocation x.world d ↔
        ∃ t, Trip R skippers bs x t d := by
    simp only [Exchange.ends_run_iff, Exchange.ends_fetch_iff_course]
    constructor
    · rintro ⟨e, ⟨t, h⟩, rfl⟩
      have htrip := Trip.fetched (y := x) (t := t) hr (by rw [hpassed]; rfl) h
      rw [hpassed] at htrip
      exact ⟨t, htrip⟩
    · rintro ⟨t, ⟨hr', -⟩ | ⟨-, rfl, h⟩⟩
      · exact absurd hr' hr
      · rw [hpassed] at h ⊢
        exact ⟨_, ⟨t, h⟩, rfl⟩
  cases hskip : Skipper.any skippers x.invocation.method x.invocation.target with
  | true =>
    rw [endsFrom_iff_of_skips hskip]
    refine hcenter bs x d (passed_of_skips hskip) ?_
    rintro ⟨hnot, -⟩
    rw [hskip] at hnot
    cases hnot
  | false =>
    induction bs generalizing x d with
    | nil =>
      rw [endsFrom_nil_iff]
      refine hcenter [] x d ?_ ?_
      · unfold passed
        split <;> rfl
      · rintro ⟨-, b, hb, -⟩
        cases hb
    | cons b bs ih =>
      rw [endsFrom_cons_iff hskip]
      split
      next hrefuses =>
        have hpassed : passed skippers (b :: bs) x.invocation = [] := passed_cons_of_refuses hrefuses
        have hr : Refused skippers (b :: bs) x.invocation :=
          ⟨hskip, b, List.mem_cons_self, hrefuses⟩
        constructor
        · rintro rfl
          have h := Trip.refused (R := R) hr rfl
          rw [hpassed] at h
          exact ⟨none, h⟩
        · rintro ⟨t, ⟨-, rfl⟩ | ⟨hr', -⟩⟩
          · rw [hpassed]
            rfl
          · exact absurd hr hr'
      next hpasses =>
        have hskip' : Skipper.any skippers (b.enter x).invocation.method
            (b.enter x).invocation.target = false := by
          rw [Builtin.invocation_enter]
          exact hskip
        simp only [ih hskip', trip_cons_iff hskip hpasses]
        constructor
        · rintro ⟨e, ⟨t, h⟩, hd⟩
          exact ⟨t, e, h, hd⟩
        · rintro ⟨t, e, h, hd⟩
          exact ⟨e, ⟨t, h⟩, hd⟩

/-- A call comes back with a response exactly if its fetch received one, and with that response. -/
theorem Trip.carried?_eq {t : Option Transfer} (h : Trip R skippers bs x t d) :
    carried? d.outcome = t.bind Transfer.received? := by
  cases h with
  | refused => exact Builtin.carried?_leaveAll _ _ _
  | fetched _ _ hcourse =>
    rw [Builtin.carried?_leaveAll, Exchange.carried?_conclusion]
    exact hcourse.carried?_eq

/-- The request of a transfer is handed over once at most, and nothing else is. -/
theorem Trip.requests_eq {t : Option Transfer} (h : Trip R skippers bs x t d)
    (hw : Watches World.requests (fun q => [q])
      (Builtin.enterAll (passed skippers bs x.invocation) x).invocation)
    (hR : ∀ g w w₁, R g w w₁ → w₁.requests = w.requests) :
    ∃ qs, d.world.requests = x.world.requests ++ qs ∧
      qs <+: (t.map fun t => t.prepared.request).toList := by
  rw [← Builtin.requests_enterAll (passed skippers bs x.invocation)]
  cases h with
  | refused _ hy =>
    subst hy
    refine ⟨[], ?_, List.prefix_rfl⟩
    rw [Builtin.requests_leaveAll, List.append_nil]
    exact World.requests_quiet _
  | fetched _ hy hcourse =>
    subst hy
    rw [Builtin.requests_leaveAll, Exchange.world_conclusion]
    exact hcourse.requests_eq hw hR

/-- The reasons for which a call hands over no request, and the exits they lead to. -/
inductive Unsent (R : Resumption) (skippers : List Skipper) (bs : List Builtin) (x : Entrance ρ) :
    Prop where
  /-- A guard refuses the call. -/
  | refused : Refused skippers bs x.invocation → Unsent R skippers bs x
  /-- The resolver or the processor fails or panics, or the URL does not take the query. -/
  | unready {y : Entrance ρ} {o : Except Panic CallFailure} {v : World} :
      y = Builtin.enterAll (passed skippers bs x.invocation) x →
      Unready y.context y.invocation y.world o v → Unsent R skippers bs x
  /-- The end of the context is there before a connection is, however long that takes. -/
  | finished {y : Entrance ρ} {p : Exchange.Prepared} {v : World} :
      y = Builtin.enterAll (passed skippers bs x.invocation) x →
      Readied y.context y.invocation y.world p v →
      (∀ r v', Work.Ends R (taking y.context y.invocation).run v r v' → r = .ok none) →
      Unsent R skippers bs x
  /-- The end of the context is there with every connection that is to be had. -/
  | overtaken {y : Entrance ρ} {p : Exchange.Prepared} {v : World} :
      y = Builtin.enterAll (passed skippers bs x.invocation) x →
      Readied y.context y.invocation y.world p v →
      (∀ c v', Work.Ends R (taking y.context y.invocation).run v (.ok (some (.ok c))) v' →
        y.context.isSignalled v' = true) →
      Unsent R skippers bs x
  /-- There is no connection to be had. -/
  | undialed {y : Entrance ρ} {p : Exchange.Prepared} {v : World} :
      y = Builtin.enterAll (passed skippers bs x.invocation) x →
      Readied y.context y.invocation y.world p v →
      (∀ c v', ¬ Work.Ends R (taking y.context y.invocation).run v (.ok (some (.ok c))) v') →
      Unsent R skippers bs x

theorem Trip.eq_none {t : Option Transfer} (h : Trip R skippers bs x t d)
    (hunsent : Unsent R skippers bs x) : t = none := by
  cases h with
  | refused => rfl
  | fetched hr hy hcourse =>
    cases hunsent with
    | refused h => exact absurd h hr
    | unready hy' h =>
      subst hy hy'
      exact hcourse.eq_none_of_unready h
    | finished hy' hready hfinished =>
      subst hy hy'
      exact hcourse.eq_none hready fun c v' htaking => nomatch hfinished _ v' htaking
    | overtaken hy' hready hsignalled =>
      subst hy hy'
      exact hcourse.eq_none hready fun c v' htaking => hsignalled c v' htaking
    | undialed hy' hready hnot =>
      subst hy hy'
      exact hcourse.eq_none hready fun c v' htaking => absurd htaking (hnot c v')

omit [Reply ρ] in
/-- A call whose end is there before it begins hands over no request, if its closures leave the end
there. -/
theorem unsent_of_signalled (hsignalled : x.context.isSignalled x.world = true)
    (hkeep : x.invocation.info.Keeps
      fun v v' => x.context.isSignalled v = true → x.context.isSignalled v' = true) :
    Unsent R skippers bs x := by
  let y := Builtin.enterAll (passed skippers bs x.invocation) x
  rcases Exchange.readied_or_unready y.context y.invocation y.world with
    ⟨p, v, hready⟩ | ⟨o, v, hunready⟩
  · have hv : y.context.isSignalled v = true := by
      refine hready.isSignalled ?_ ?_
      · simp only [y, Builtin.isSignalled_enterAll]
        exact Builtin.keeps_enterAll hkeep _
      · rw [Builtin.isSignalled_enterAll, (Builtin.sameTime_enterAll _ x).isSignalled]
        exact hsignalled
    exact .finished rfl hready fun r v' htaking => Exchange.eq_none_of_signalled hv htaking
  · exact .unready rfl hunready

end Chain

end CallChain
