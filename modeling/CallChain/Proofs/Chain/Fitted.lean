import CallChain.Proofs.Call.Place
import CallChain.Proofs.Chain.Leaving

/-!
# Chains whose stages have skippers of their own

A stage of the library can be made with any skippers, so that some stages of a chain stand aside for a
method and a target and others act.  `Fitted.acting` lists those that act.  A call goes in through them,
runs whatever the chain goes on with, and goes out through them again: `Chain.ends_fitted_iff` says so,
unless a guard among them turns the call back (`Chain.ends_guard_iff`).  What the chain goes on with is any
chain around any center.
-/

set_option autoImplicit false

namespace CallChain

open Call (Ends)

structure Fitted where
  builtin : Builtin
  skippers : List Skipper

namespace Fitted

def stage (f : Fitted) : Stage := f.builtin.stage f.skippers

/-- The stages that do not stand aside for a method and a target. -/
def acting (fs : List Fitted) (m t : String) : List Builtin :=
  (fs.filter fun f => !Skipper.any f.skippers m t).map builtin

variable {f : Fitted} {fs : List Fitted} {m t : String}

@[simp] theorem acting_nil : acting [] m t = [] := rfl

theorem acting_cons_of_skips (h : Skipper.any f.skippers m t = true) :
    acting (f :: fs) m t = acting fs m t := by
  simp [acting, h]

theorem acting_cons_of_acts (h : Skipper.any f.skippers m t = false) :
    acting (f :: fs) m t = f.builtin :: acting fs m t := by
  simp [acting, h]

theorem acting_map (bs : List Builtin) {skippers : List Skipper}
    (h : Skipper.any skippers m t = false) :
    acting (bs.map fun b => ⟨b, skippers⟩) m t = bs := by
  induction bs with
  | nil => rfl
  | cons b bs ih => rw [List.map_cons, acting_cons_of_acts h, ih]

/-- The outermost of the acting stages of a kind, with the stages around it. -/
theorem exists_outermost {b : Builtin} (h : b ∈ acting fs m t) :
    ∃ outer skippers inner, fs = outer ++ ⟨b, skippers⟩ :: inner ∧
      Skipper.any skippers m t = false ∧
      acting outer m t = (acting fs m t).takeWhile fun b' => b' ≠ b := by
  induction fs with
  | nil => cases h
  | cons f fs ih =>
    cases hskip : Skipper.any f.skippers m t with
    | true =>
      rw [acting_cons_of_skips hskip] at h ⊢
      obtain ⟨outer, skippers, inner, rfl, hacts, houter⟩ := ih h
      refine ⟨f :: outer, skippers, inner, rfl, hacts, ?_⟩
      rw [acting_cons_of_skips hskip, houter]
    | false =>
      rw [acting_cons_of_acts hskip] at h ⊢
      by_cases hb : f.builtin = b
      · subst hb
        exact ⟨[], f.skippers, fs, rfl, hskip, by simp⟩
      · obtain ⟨outer, skippers, inner, rfl, hacts, houter⟩ :=
          ih ((List.mem_cons.mp h).resolve_left (Ne.symm hb))
        refine ⟨f :: outer, skippers, inner, rfl, hacts, ?_⟩
        rw [acting_cons_of_acts hskip, houter, List.takeWhile_cons_of_pos (by simpa using hb)]

end Fitted

namespace Chain

variable {ρ : Type} [Reply ρ] {R : Resumption} {m t : String} {rest : Chain}
  {center : CallContext → Call ρ CallResult} {x : Entrance ρ} {d : Departure ρ CallResult}

theorem ends_fitted_cons_iff (f : Fitted) :
    Ends R (run (f.stage :: rest) center x.context) x.invocation x.world d ↔
      if Skipper.any f.skippers x.invocation.method x.invocation.target = true then
        Ends R (run rest center x.context) x.invocation x.world d
      else Ends R (f.builtin.intercept x.context ⟨rest.map Stage.name, run rest center⟩)
        x.invocation x.world d := by
  rw [run_cons, Call.ends_get_bind_iff]
  simp only [Fitted.stage, Builtin.skips_stage, Builtin.intercept_stage]
  split <;> rfl

/-- A call goes in through the stages that act, and out again after the rest of the chain. -/
theorem ends_fitted_iff (fs : List Fitted) (hat : x.invocation.At m t)
    (hpasses : ∀ b ∈ Fitted.acting fs m t, ¬ b.Refuses x.invocation) :
    Ends R (run (fs.map Fitted.stage ++ rest) center x.context) x.invocation x.world d ↔
      ∃ e, Ends R (run rest center (Builtin.enterAll (Fitted.acting fs m t) x).context)
          (Builtin.enterAll (Fitted.acting fs m t) x).invocation
          (Builtin.enterAll (Fitted.acting fs m t) x).world e ∧
        d = Builtin.leaveAll (Fitted.acting fs m t) x.invocation.codes e := by
  -- A stage that acts hands `f.builtin.enter x` to the rest, so the entrance is generalized.
  induction fs generalizing x d with
  | nil => exact (exists_eq_right').symm
  | cons f fs ih =>
    obtain ⟨hm, ht⟩ := hat
    rw [List.map_cons, List.cons_append, ends_fitted_cons_iff, hm, ht]
    cases hskip : Skipper.any f.skippers m t with
    | true =>
      rw [Fitted.acting_cons_of_skips hskip] at hpasses ⊢
      exact ih ⟨hm, ht⟩ hpasses
    | false =>
      rw [Fitted.acting_cons_of_acts hskip] at hpasses ⊢
      rw [if_neg Bool.false_ne_true,
        Builtin.ends_intercept_iff (hpasses f.builtin List.mem_cons_self)]
      have henter := Builtin.invocation_enter f.builtin x
      have hcodes : (f.builtin.enter x).invocation.codes = x.invocation.codes := by
        rw [henter]
        rfl
      have hat' : (f.builtin.enter x).invocation.At m t := by
        rw [henter]
        exact ⟨hm, ht⟩
      have hpasses' : ∀ b ∈ Fitted.acting fs m t, ¬ b.Refuses (f.builtin.enter x).invocation := by
        rw [henter]
        exact fun b hb => hpasses b (List.mem_cons_of_mem _ hb)
      simp only [ih hat' hpasses', hcodes]
      constructor
      · rintro ⟨_, ⟨e, he, rfl⟩, rfl⟩
        exact ⟨e, he, rfl⟩
      · rintro ⟨e, he, rfl⟩
        exact ⟨_, ⟨e, he, rfl⟩, rfl⟩

/-- Around the exchange, a call goes through the stages that act as it goes through a chain of these. -/
theorem ends_fitted_iff_endsFrom (fs : List Fitted) (hat : x.invocation.At m t) :
    Ends R (run (fs.map Fitted.stage) Exchange.run x.context) x.invocation x.world d ↔
      EndsFrom R [] (Fitted.acting fs m t) x d := by
  induction fs generalizing x d with
  | nil =>
    rw [Fitted.acting_nil, endsFrom_nil_iff, List.map_nil, run_nil]
  | cons f fs ih =>
    obtain ⟨hm, ht⟩ := hat
    rw [List.map_cons, ends_fitted_cons_iff, hm, ht]
    cases hskip : Skipper.any f.skippers m t with
    | true =>
      rw [Fitted.acting_cons_of_skips hskip]
      exact ih ⟨hm, ht⟩
    | false =>
      rw [Fitted.acting_cons_of_acts hskip, endsFrom_cons_iff rfl, if_neg Bool.false_ne_true]
      split
      next hrefuses => exact Builtin.ends_intercept_iff_of_refuses hrefuses
      next hpasses =>
        have hat' : (f.builtin.enter x).invocation.At m t := by
          rw [Builtin.invocation_enter]
          exact ⟨hm, ht⟩
        simp only [Builtin.ends_intercept_iff hpasses, ih hat']

/-- A guard that acts turns a call without a client certificate back, whatever it guards. -/
theorem ends_guard_iff {skippers : List Skipper} (hmode : x.invocation.client.mode ≠ .mutualTls)
    (hacts : Skipper.any skippers x.invocation.method x.invocation.target = false) :
    Ends R (run ((Fitted.mk .certificateGuard skippers).stage :: rest) center x.context)
        x.invocation x.world d ↔
      d = ⟨.ok (.error (CertificateGuard.refusal x.invocation.client)), x.invocation,
        x.world.quiet⟩ := by
  rw [ends_fitted_cons_iff, hacts, if_neg Bool.false_ne_true]
  exact CertificateGuard.ends_intercept_iff_of_ne hmode

end Chain

end CallChain
