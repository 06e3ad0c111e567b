import CallChain.Chain.Invocation
import CallChain.Proofs.Work.Trace

/-!
# Parts of a call at one method and target

The chain asks each stage it reaches whether it stands aside for the method and the target that the
invocation has at that moment.  `Call.SameAt m t c c'` says that two parts of a call, begun on any
invocation of the method `m` at the target `t`, do the same work and leave the invocation there,
whichever way they end.  It is kept by every way of putting parts of a call together; a part that is
the same as itself is one that leaves method and target alone.
-/

set_option autoImplicit false

namespace CallChain

namespace Work

variable {α β : Type} {P : α → Prop} {Q : β → Prop}

/-- Whether every value the work can end with is of a kind. -/
def Yields (P : α → Prop) (p : Work α) : Prop :=
  p.Traces (fun _ => ([] : List Unit)) fun _ a => P a

theorem Yields.of_all {p : Work α} (h : ∀ a, P a) : p.Yields P :=
  (Traces.trivial p).mono fun _ a _ => h a

theorem Yields.bind {p : Work α} {k : α → Work β} (hp : p.Yields P)
    (hk : ∀ a, P a → (k a).Yields Q) : (p.bind k).Yields Q :=
  Traces.bind hp fun _ => hk

/-- What follows a piece of work matters only for the values it can end with. -/
theorem bind_congr_of_yields {p : Work α} {k l : α → Work β} (hp : p.Yields P)
    (h : ∀ a, P a → k a = l a) : p.bind k = p.bind l := by
  induction p with
  | done a => exact h a hp
  | act f next ih =>
    simp only [Work.bind]
    congr 1
    funext w
    obtain ⟨_, _, hnext⟩ := hp w
    exact ih w hnext
  | wait g d next ih =>
    simp only [Work.bind]
    rw [ih hp.2]

end Work

/-- Whether an invocation is of a method at a target. -/
def Invocation.At {ρ : Type} (m t : String) (i : Invocation ρ) : Prop :=
  i.method = m ∧ i.target = t

namespace Call

variable {ρ α β : Type} {m t : String}

/-- Two parts of a call that do the same at a method and a target, and stay there. -/
def SameAt (m t : String) (c c' : Call ρ α) : Prop :=
  ∀ i : Invocation ρ, i.At m t →
    c.run.run i = c'.run.run i ∧ (c.run.run i).Yields fun r => r.2.At m t

namespace SameAt

variable {c c' : Call ρ α} {k l : α → Call ρ β}

theorem trans {c'' : Call ρ α} (h : SameAt m t c c') (h' : SameAt m t c' c'') :
    SameAt m t c c'' := by
  intro i hi
  obtain ⟨hwork, hyields⟩ := h i hi
  exact ⟨hwork.trans (h' i hi).1, hyields⟩

theorem pure (a : α) : SameAt m t (Pure.pure a : Call ρ α) (Pure.pure a) :=
  fun _ hi => ⟨rfl, hi⟩

/-- The work behind two parts of a call, one after the other. -/
theorem work_bind (c : Call ρ α) (k : α → Call ρ β) (i : Invocation ρ) :
    (c >>= k).run.run i = (c.run.run i).bind fun r =>
      match r with
      | (.ok a, j) => (k a).run.run j
      | (.error p, j) => .done (.error p, j) := by
  show (c.run.run i).bind _ = _
  congr 1
  funext r
  obtain ⟨_ | _, _⟩ := r <;> rfl

theorem bind (h : SameAt m t c c') (hk : ∀ a, SameAt m t (k a) (l a)) :
    SameAt m t (c >>= k) (c' >>= l) := by
  intro i hi
  obtain ⟨hwork, hyields⟩ := h i hi
  rw [work_bind, work_bind, ← hwork]
  constructor
  · refine Work.bind_congr_of_yields hyields fun r hr => ?_
    obtain ⟨_ | a, j⟩ := r
    · rfl
    · exact (hk a j hr).1
  · refine hyields.bind fun r hr => ?_
    obtain ⟨_ | a, j⟩ := r
    · exact hr
    · exact (hk a j hr).2

/-- The invocation that is looked up is at the method and the target. -/
theorem get_bind {k l : Invocation ρ → Call ρ β}
    (hk : ∀ i : Invocation ρ, i.At m t → SameAt m t (k i) (l i)) :
    SameAt m t (get >>= k) (get >>= l) :=
  fun i hi => hk i hi i hi

theorem modified {f : Invocation ρ → Invocation ρ} (hf : ∀ i, i.At m t → (f i).At m t) :
    SameAt m t (modify f : Call ρ PUnit) (modify f) :=
  fun i hi => ⟨rfl, hf i hi⟩

theorem stored {j : Invocation ρ} (hj : j.At m t) :
    SameAt m t (set j : Call ρ PUnit) (set j) :=
  fun _ _ => ⟨rfl, hj⟩

/-- Work outside the invocation leaves it where it is. -/
theorem ofAttempt (t' : Attempt α) : SameAt m t (Call.ofAttempt t' : Call ρ α) (Call.ofAttempt t') := by
  intro i hi
  refine ⟨rfl, ?_⟩
  show (t'.run.bind fun a => .done (a, i)).Yields _
  exact (Work.Yields.of_all (P := fun _ => True) fun _ => trivial).bind fun _ _ => hi

theorem caught (h : SameAt m t c c') : SameAt m t c.caught c'.caught := by
  intro i hi
  obtain ⟨hwork, hyields⟩ := h i hi
  have htree (c : Call ρ α) :
      c.caught.run.run i = (c.run.run i).bind fun r => .done (.ok r.1, r.2) := rfl
  rw [htree, htree, ← hwork]
  exact ⟨rfl, hyields.bind fun _ hr => hr⟩

/-- A loop over a list, each turn of which is such a part. -/
theorem forIn {γ σ : Type} {f : γ → σ → Call ρ (ForInStep σ)}
    (hf : ∀ x s, SameAt m t (f x s) (f x s)) (xs : List γ) (s : σ) :
    SameAt m t (ForIn.forIn xs s f) (ForIn.forIn xs s f) := by
  induction xs generalizing s with
  | nil => exact pure s
  | cons x xs ih =>
    rw [List.forIn_cons]
    refine (hf x s).bind fun r => ?_
    cases r with
    | done s' => exact pure s'
    | yield s' => exact ih s'

end SameAt

end Call

end CallChain
