import CallChain.Proofs.Work.Ends
import CallChain.Work.Attempt

/-!
# What work leaves behind on its way

An observer of the world sees a list grow.  `Work.Traces obs p P` says that on every way to an end of
the work, whatever the world does while it waits, the observer sees a list `xs` more than before, the
work ends with a value `a`, and `P xs a` holds.  An observer that sees nothing leaves only the value to
be talked about.
-/

set_option autoImplicit false

namespace CallChain.Work

variable {α β ε : Type}

/-- On every way to its end, what the work adds to what is observed and the value it ends with are
related. -/
def Traces (obs : World → List ε) : Work α → (List ε → α → Prop) → Prop
  | .done a, P => P [] a
  | .act f next, P =>
    ∀ w, ∃ xs, obs (f w) = obs w ++ xs ∧ (next w).Traces obs fun ys a => P (xs ++ ys) a
  | .wait _ d next, P => (∀ w, obs (d w) = obs w) ∧ next.Traces obs P

namespace Traces

variable {obs : World → List ε} {P : List ε → α → Prop} {Q : List ε → β → Prop}

/-- A change of the world that the observer does not see. -/
theorem unseen {f : World → World} {next : World → Work α} (hf : ∀ w, obs (f w) = obs w)
    (hnext : ∀ w, (next w).Traces obs P) : (Work.act f next).Traces obs P := by
  intro w
  refine ⟨[], ?_, hnext w⟩
  rw [hf, List.append_nil]

theorem of_ends {R : Resumption} {p : Work α} {w w' : World} {a : α}
    (hR : ∀ g w w₁, R g w w₁ → obs w₁ = obs w) (h : Ends R p w a w') (hp : p.Traces obs P) :
    ∃ xs, obs w' = obs w ++ xs ∧ P xs a := by
  induction h generalizing P with
  | done a w => exact ⟨[], (List.append_nil _).symm, hp⟩
  | act h ih =>
    obtain ⟨xs, hxs, hnext⟩ := hp _
    obtain ⟨ys, hys, ha⟩ := ih hnext
    exact ⟨xs ++ ys, by rw [hys, hxs, List.append_assoc], ha⟩
  | wait hr h ih =>
    obtain ⟨xs, hxs, ha⟩ := ih hp.2
    exact ⟨xs, by rw [hxs, hR _ _ _ hr], ha⟩

theorem mono {P' : List ε → α → Prop} {p : Work α} (hp : p.Traces obs P)
    (h : ∀ xs a, P xs a → P' xs a) : p.Traces obs P' := by
  induction p generalizing P P' with
  | done a => exact h [] a hp
  | act f next ih =>
    intro w
    obtain ⟨xs, hxs, hnext⟩ := hp w
    exact ⟨xs, hxs, ih w hnext fun ys a => h (xs ++ ys) a⟩
  | wait g d next ih => exact ⟨hp.1, ih hp.2 h⟩

theorem bind {p : Work α} {k : α → Work β} (hp : p.Traces obs P)
    (hk : ∀ xs a, P xs a → (k a).Traces obs fun ys b => Q (xs ++ ys) b) :
    (p.bind k).Traces obs Q := by
  induction p generalizing P Q with
  | done a => exact hk [] a hp
  | act f next ih =>
    intro w
    obtain ⟨xs, hxs, hnext⟩ := hp w
    refine ⟨xs, hxs, ih w hnext fun ys a ha => ?_⟩
    exact (hk (xs ++ ys) a ha).mono fun zs b hb => by rwa [List.append_assoc] at hb
  | wait g d next ih => exact ⟨hp.1, ih hp.2 hk⟩

theorem guarded {p : Work α} {release : World → World} (hrelease : ∀ w, obs (release w) = obs w)
    (hp : p.Traces obs P) : (p.guarded release).Traces obs P := by
  induction p generalizing P with
  | done a => exact unseen hrelease fun _ => hp
  | act f next ih =>
    intro w
    obtain ⟨xs, hxs, hnext⟩ := hp w
    exact ⟨xs, hxs, ih w hnext⟩
  | wait g d next ih => exact ⟨fun w => by rw [hrelease, hp.1], ih hp.2⟩

/-- Work that is given up has no value; otherwise it is what it was. -/
theorem interruptedBy {p : Work α} {stop : Guard} (hp : p.Traces obs P) :
    (p.interruptedBy stop).Traces obs fun xs o => ∀ a, o = some a → P xs a := by
  induction p generalizing P with
  | done a =>
    intro b hb
    cases hb
    exact hp
  | act f next ih =>
    intro w
    obtain ⟨xs, hxs, hnext⟩ := hp w
    exact ⟨xs, hxs, ih w hnext⟩
  | wait g d next ih =>
    refine unseen (fun _ => rfl) fun w => ?_
    split
    · exact ih hp.2
    · refine ⟨hp.1, unseen (fun _ => rfl) fun w₁ => ?_⟩
      split
      · exact unseen hp.1 fun _ _ h => by cases h
      · exact ih hp.2

theorem limitedTo {p : Work α} {limit : Guard} (hp : p.Traces obs P) :
    (p.limitedTo limit).Traces obs fun xs o => ∀ a, o = some a → P xs a := by
  induction p generalizing P with
  | done a =>
    intro b hb
    cases hb
    exact hp
  | act f next ih =>
    intro w
    obtain ⟨xs, hxs, hnext⟩ := hp w
    exact ⟨xs, hxs, ih w hnext⟩
  | wait g d next ih =>
    refine unseen (fun _ => rfl) fun w => ?_
    split
    · exact ih hp.2
    · refine ⟨hp.1, unseen (fun _ => rfl) fun w₁ => ?_⟩
      split
      · exact ih hp.2
      · exact unseen hp.1 fun _ _ h => by cases h

/-- Work has an end to be talked about. -/
theorem exists_value {p : Work α} (hp : p.Traces obs P) : ∃ xs a, P xs a := by
  induction p generalizing P with
  | done a => exact ⟨[], a, hp⟩
  | act f next ih =>
    obtain ⟨xs, -, hnext⟩ := hp .initial
    obtain ⟨ys, a, ha⟩ := ih .initial hnext
    exact ⟨xs ++ ys, a, ha⟩
  | wait g d next ih => exact ih hp.2

/-- Work that may be given up leaves the beginning of what it would leave. -/
theorem interruptedBy_beginning {p : Work α} {stop : Guard} (hp : p.Traces obs P) :
    (p.interruptedBy stop).Traces obs fun xs _ => ∃ ys a, P (xs ++ ys) a := by
  induction p generalizing P with
  | done a => exact ⟨[], a, hp⟩
  | act f next ih =>
    intro w
    obtain ⟨xs, hxs, hnext⟩ := hp w
    refine ⟨xs, hxs, (ih w hnext).mono ?_⟩
    rintro ys _ ⟨zs, a, ha⟩
    exact ⟨zs, a, by rwa [List.append_assoc]⟩
  | wait g d next ih =>
    refine unseen (fun _ => rfl) fun w => ?_
    split
    · exact ih hp.2
    · refine ⟨hp.1, unseen (fun _ => rfl) fun w₁ => ?_⟩
      split
      · exact unseen hp.1 fun _ => exists_value hp.2
      · exact ih hp.2

theorem limitedTo_beginning {p : Work α} {limit : Guard} (hp : p.Traces obs P) :
    (p.limitedTo limit).Traces obs fun xs _ => ∃ ys a, P (xs ++ ys) a := by
  induction p generalizing P with
  | done a => exact ⟨[], a, hp⟩
  | act f next ih =>
    intro w
    obtain ⟨xs, hxs, hnext⟩ := hp w
    refine ⟨xs, hxs, (ih w hnext).mono ?_⟩
    rintro ys _ ⟨zs, a, ha⟩
    exact ⟨zs, a, by rwa [List.append_assoc]⟩
  | wait g d next ih =>
    refine unseen (fun _ => rfl) fun w => ?_
    split
    · exact ih hp.2
    · refine ⟨hp.1, unseen (fun _ => rfl) fun w₁ => ?_⟩
      split
      · exact ih hp.2
      · exact unseen hp.1 fun _ => exists_value hp.2

/-- An observer that sees nothing leaves nothing to be said of work in general. -/
theorem trivial (p : Work α) : p.Traces (fun _ => ([] : List ε)) fun xs _ => xs = [] := by
  induction p with
  | done a => rfl
  | act f next ih => exact unseen (fun _ => rfl) ih
  | wait g d next ih => exact ⟨fun _ => rfl, ih⟩

/-- A panic of the first part is a panic of the whole. -/
theorem attempt_bind {t : Attempt α} {k : α → Attempt β} {P : List ε → α → Prop}
    {Q : List ε → Except Panic β → Prop}
    (ht : t.run.Traces obs fun xs r => match r with | .ok a => P xs a | .error p => Q xs (.error p))
    (hk : ∀ xs a, P xs a → (k a).run.Traces obs fun ys b => Q (xs ++ ys) b) :
    (t >>= k).run.Traces obs Q := by
  have htree : (t >>= k).run = t.run.bind fun r =>
      match r with
      | .ok a => (k a).run
      | .error p => .done (.error p) := by
    show t.run.bind _ = _
    congr 1
    funext r
    cases r <;> rfl
  rw [htree]
  refine bind ht fun xs r hr => ?_
  cases r with
  | ok a => exact hk xs a hr
  | error p =>
    show Q (xs ++ []) (.error p)
    rw [List.append_nil]
    exact hr

/-- Work that cannot panic is followed as it is. -/
theorem lift_bind {p : Work α} {k : α → Attempt β} {Q : List ε → Except Panic β → Prop}
    (hp : p.Traces obs P) (hk : ∀ xs a, P xs a → (k a).run.Traces obs fun ys b => Q (xs ++ ys) b) :
    (((p : Attempt α) >>= k)).run.Traces obs Q := by
  have htree : ((p : Attempt α) >>= k).run = p.bind fun a => (k a).run := by
    show (p.bind _).bind _ = _
    rw [bind_bind]
    rfl
  rw [htree]
  exact bind hp hk

end Traces

end CallChain.Work
