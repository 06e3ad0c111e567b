import CallChain.Chain.Invocation
import CallChain.Proofs.Work.Ends
import CallChain.Proofs.Work.Quiet

/-!
# How parts of a call end

A part of a call ends with a value or a panic, and with the invocation as it left it.  `Call.Runs` says
so of the work it stands for, with one rule for each way of putting calls together.  `Call.Ends` is the
same with the log left out of the world at the end: what stages write into the log on their way out then
needs no name.  Its rule is `ends_bind_iff`: a part that is followed by something which only turns one
`Departure` into another.
-/

set_option autoImplicit false

namespace CallChain

/-- How a part of a call left things. -/
structure Departure (ρ α : Type) where
  outcome : Except Panic α
  invocation : Invocation ρ
  world : World

/-- The response that an outcome carries, as its value or along with its failure. -/
def carried? : Except Panic CallResult → Option RawResponse
  | .ok (.ok response) => some response
  | .ok (.error e) => e.response
  | .error _ => none

/-- What comes after a part that did not panic; a panic stays what it is. -/
def Departure.andThen {ρ α β : Type} (e : Departure ρ α)
    (f : α → Invocation ρ → World → Departure ρ β) : Departure ρ β :=
  match e.outcome with
  | .ok a => f a e.invocation e.world
  | .error p => ⟨.error p, e.invocation, e.world⟩

namespace Call

variable {ρ α β : Type} {R : Resumption}

/-- Begun on the first invocation in the first world, the call can end with the outcome, the second
invocation and the second world. -/
def Runs (R : Resumption) (c : Call ρ α) (i : Invocation ρ) (w : World) (o : Except Panic α)
    (i' : Invocation ρ) (w' : World) : Prop :=
  Work.Ends R (c.run.run i) w (o, i') w'

/-- The call can end as given, whatever it logs. -/
def Ends (R : Resumption) (c : Call ρ α) (i : Invocation ρ) (w : World) (d : Departure ρ α) : Prop :=
  ∃ w', w'.quiet = d.world ∧ Runs R c i w d.outcome d.invocation w'

variable {i i' : Invocation ρ} {w w' : World} {o : Except Panic α}

@[simp] theorem runs_pure_iff {a : α} :
    Runs R (pure a) i w o i' w' ↔ o = .ok a ∧ i' = i ∧ w' = w := by
  show Work.Ends R (.done (.ok a, i)) w (o, i') w' ↔ _
  simp [and_assoc]

/-- A panic of the first part is a panic of the whole. -/
theorem runs_bind_iff {c : Call ρ α} {k : α → Call ρ β} {o : Except Panic β} :
    Runs R (c >>= k) i w o i' w' ↔
      (∃ a i₁ w₁, Runs R c i w (.ok a) i₁ w₁ ∧ Runs R (k a) i₁ w₁ o i' w') ∨
        ∃ p, o = .error p ∧ Runs R c i w (.error p) i' w' := by
  have htree : (c >>= k).run.run i = (c.run.run i).bind fun r =>
      match r with
      | (.ok a, i₁) => (k a).run.run i₁
      | (.error p, i₁) => .done (.error p, i₁) := by
    show (c.run.run i).bind _ = _
    congr 1
    funext r
    obtain ⟨r | r, i₁⟩ := r <;> rfl
  simp only [Runs, htree, Work.ends_bind_iff]
  constructor
  · rintro ⟨⟨r, i₁⟩, w₁, hc, hk⟩
    cases r with
    | ok a => exact .inl ⟨a, i₁, w₁, hc, hk⟩
    | error p =>
      simp only [Work.ends_done_iff, Prod.mk.injEq] at hk
      obtain ⟨⟨rfl, rfl⟩, rfl⟩ := hk
      exact .inr ⟨p, rfl, hc⟩
  · rintro (⟨a, i₁, w₁, hc, hk⟩ | ⟨p, rfl, hc⟩)
    · exact ⟨(.ok a, i₁), w₁, hc, hk⟩
    · exact ⟨(.error p, i'), w', hc, by simp⟩

@[simp] theorem runs_get_iff {o : Except Panic (Invocation ρ)} :
    Runs R get i w o i' w' ↔ o = .ok i ∧ i' = i ∧ w' = w := by
  show Work.Ends R (.done (.ok i, i)) w (o, i') w' ↔ _
  simp [and_assoc]

@[simp] theorem runs_modify_iff {f : Invocation ρ → Invocation ρ} {o : Except Panic PUnit} :
    Runs R (modify f) i w o i' w' ↔ o = .ok () ∧ i' = f i ∧ w' = w := by
  show Work.Ends R (.done (.ok (), f i)) w (o, i') w' ↔ _
  simp [and_assoc]

/-- Work outside the invocation leaves the invocation alone. -/
theorem runs_ofAttempt_iff {t : Attempt α} :
    Runs R (ofAttempt t) i w o i' w' ↔ i' = i ∧ Work.Ends R t.run w o w' := by
  show Work.Ends R (t.run.bind fun a => .done (a, i)) w (o, i') w' ↔ _
  rw [Work.ends_bind_iff]
  simp only [Work.ends_done_iff, Prod.mk.injEq]
  constructor
  · rintro ⟨a, w₁, h, ⟨rfl, rfl⟩, rfl⟩
    exact ⟨rfl, h⟩
  · rintro ⟨rfl, h⟩
    exact ⟨o, w', h, ⟨rfl, rfl⟩, rfl⟩

/-- Work that cannot panic ends with its value. -/
@[simp] theorem runs_lift_iff {p : Work α} :
    Runs R (ofAttempt (p : Attempt α)) i w o i' w' ↔
      ∃ a, o = .ok a ∧ i' = i ∧ Work.Ends R p w a w' := by
  rw [runs_ofAttempt_iff]
  show i' = i ∧ Work.Ends R (p.bind fun a => .done (.ok a)) w o w' ↔ _
  simp only [Work.ends_bind_iff, Work.ends_done_iff]
  constructor
  · rintro ⟨rfl, a, w₁, h, rfl, rfl⟩
    exact ⟨a, rfl, rfl, h⟩
  · rintro ⟨a, rfl, rfl, h⟩
    exact ⟨rfl, a, w', h, rfl, rfl⟩

@[simp] theorem runs_log_iff {ctx : CallContext} {level : Level} {message : String}
    {fields : LogFields} {o : Except Panic Unit} :
    Runs R (log ctx level message fields) i w o i' w' ↔
      o = .ok () ∧ i' = i ∧ w' = w.record (.logged ⟨level, message, fields, ctx.span⟩) := by
  show Work.Ends R (.act _ fun _ => .done (.ok (), i)) w (o, i') w' ↔ _
  simp [and_assoc]

/-- A caught part ends with the outcome it would have ended with as its value. -/
theorem runs_caught_iff {c : Call ρ α} {o : Except Panic (Except Panic α)} :
    Runs R c.caught i w o i' w' ↔ ∃ r, o = .ok r ∧ Runs R c i w r i' w' := by
  have htree : c.caught.run.run i = (c.run.run i).bind fun r => .done (.ok r.1, r.2) := rfl
  simp only [Runs, htree, Work.ends_bind_iff, Work.ends_done_iff, Prod.mk.injEq]
  constructor
  · rintro ⟨⟨r, i₁⟩, w₁, h, ⟨rfl, rfl⟩, rfl⟩
    exact ⟨r, rfl, h⟩
  · rintro ⟨r, rfl, h⟩
    exact ⟨(r, i'), w', h, ⟨rfl, rfl⟩, rfl⟩

/-- A part of a call that runs in one way only ends in one way only. -/
theorem ends_of_runs {c : Call ρ α} {j : Invocation ρ} {w₁ : World}
    (hc : ∀ (o' : Except Panic α) (i' : Invocation ρ) (w' : World),
      Runs R c i w o' i' w' ↔ o' = o ∧ i' = j ∧ w' = w₁) {d : Departure ρ α} :
    Ends R c i w d ↔ d = ⟨o, j, w₁.quiet⟩ := by
  obtain ⟨o', i', v⟩ := d
  simp only [Ends, hc, Departure.mk.injEq]
  constructor
  · rintro ⟨w', rfl, rfl, rfl, rfl⟩
    exact ⟨rfl, rfl, rfl⟩
  · rintro ⟨rfl, rfl, rfl⟩
    exact ⟨w₁, rfl, rfl, rfl, rfl⟩

theorem ends_pure_iff {a : α} {d : Departure ρ α} :
    Ends R (pure a) i w d ↔ d = ⟨.ok a, i, w.quiet⟩ :=
  ends_of_runs fun _ _ _ => runs_pure_iff

/-- A first part that runs in one way only is carried out. -/
theorem ends_certain_bind_iff {c : Call ρ α} {k : α → Call ρ β} {a : α} {i₁ : Invocation ρ}
    {w₁ : World} (hc : ∀ (o : Except Panic α) (i' : Invocation ρ) (w' : World),
      Runs R c i w o i' w' ↔ o = .ok a ∧ i' = i₁ ∧ w' = w₁) {d : Departure ρ β} :
    Ends R (c >>= k) i w d ↔ Ends R (k a) i₁ w₁ d := by
  simp only [Ends, runs_bind_iff, hc]
  constructor
  · rintro ⟨w', hw, ⟨b, i₂, w₂, ⟨hb, rfl, rfl⟩, hk⟩ | ⟨p, -, hp, -⟩⟩
    · cases hb
      exact ⟨w', hw, hk⟩
    · cases hp
  · rintro ⟨w', hw, hk⟩
    exact ⟨w', hw, .inl ⟨a, i₁, w₁, ⟨rfl, rfl, rfl⟩, hk⟩⟩

theorem ends_get_bind_iff {k : Invocation ρ → Call ρ β} {d : Departure ρ β} :
    Ends R (get >>= k) i w d ↔ Ends R (k i) i w d :=
  ends_certain_bind_iff fun _ _ _ => runs_get_iff

theorem ends_modify_bind_iff {f : Invocation ρ → Invocation ρ} {k : PUnit → Call ρ β}
    {d : Departure ρ β} :
    Ends R (modify f >>= k) i w d ↔ Ends R (k ()) (f i) w d :=
  ends_certain_bind_iff fun _ _ _ => runs_modify_iff

theorem ends_log_bind_iff {ctx : CallContext} {level : Level} {message : String}
    {fields : LogFields} {k : Unit → Call ρ β} {d : Departure ρ β} :
    Ends R (log ctx level message fields >>= k) i w d ↔
      Ends R (k ()) i (w.record (.logged ⟨level, message, fields, ctx.span⟩)) d :=
  ends_certain_bind_iff fun _ _ _ => runs_log_iff

/-- Work that changes the world at once and answers something about it is carried out. -/
theorem ends_act_bind_iff {f : World → World} {g : World → α} {k : α → Call ρ β}
    {d : Departure ρ β} :
    Ends R (ofAttempt ((Work.act f fun w => .done (g w) : Work α) : Attempt α) >>= k) i w d ↔
      Ends R (k (g w)) i (f w) d := by
  refine ends_certain_bind_iff fun o i' w' => ?_
  rw [runs_lift_iff]
  simp only [Work.ends_act_iff, Work.ends_done_iff]
  constructor
  · rintro ⟨a, rfl, rfl, rfl, rfl⟩
    exact ⟨rfl, rfl, rfl⟩
  · rintro ⟨rfl, rfl, rfl⟩
    exact ⟨_, rfl, rfl, rfl, rfl⟩

/-- What follows a part of a call may log, and otherwise only turns one departure into another. -/
theorem ends_bind_iff {c : Call ρ α} {k : α → Call ρ β}
    (f : α → Invocation ρ → World → Departure ρ β)
    (hk : ∀ (a : α) (i₁ : Invocation ρ) (w₁ : World) (d : Departure ρ β),
      Ends R (k a) i₁ w₁ d ↔ d = f a i₁ w₁.quiet) {d : Departure ρ β} :
    Ends R (c >>= k) i w d ↔ ∃ e : Departure ρ α, Ends R c i w e ∧ d = e.andThen f := by
  constructor
  · rintro ⟨w', hw, h⟩
    rcases runs_bind_iff.mp h with ⟨a, i₁, w₁, hc, hrest⟩ | ⟨p, ho, hc⟩
    · exact ⟨⟨.ok a, i₁, w₁.quiet⟩, ⟨w₁, rfl, hc⟩, (hk a i₁ w₁ d).mp ⟨w', hw, hrest⟩⟩
    · refine ⟨⟨.error p, d.invocation, d.world⟩, ⟨w', hw, hc⟩, ?_⟩
      obtain ⟨o, j, v⟩ := d
      subst ho
      rfl
  · rintro ⟨⟨r, i₁, v⟩, ⟨w₁, rfl, hc⟩, hd⟩
    cases r with
    | ok a =>
      obtain ⟨w', hw, hrest⟩ := (hk a i₁ w₁ d).mpr hd
      exact ⟨w', hw, runs_bind_iff.mpr (.inl ⟨a, i₁, w₁, hc, hrest⟩)⟩
    | error p =>
      subst hd
      exact ⟨w₁, rfl, runs_bind_iff.mpr (.inr ⟨p, rfl, hc⟩)⟩

/-- A caught part hands its outcome on as a value. -/
theorem ends_caught_iff {c : Call ρ α} {d : Departure ρ (Except Panic α)} :
    Ends R c.caught i w d ↔
      ∃ e : Departure ρ α, Ends R c i w e ∧ d = ⟨.ok e.outcome, e.invocation, e.world⟩ := by
  obtain ⟨o, j, v⟩ := d
  simp only [Ends, runs_caught_iff, Departure.mk.injEq]
  constructor
  · rintro ⟨w', hw, r, rfl, h⟩
    exact ⟨⟨r, j, v⟩, ⟨w', hw, h⟩, rfl, rfl, rfl⟩
  · rintro ⟨e, ⟨w', hw, h⟩, rfl, rfl, rfl⟩
    exact ⟨w', hw, e.outcome, rfl, h⟩

end Call

end CallChain
