import CallChain.Chain.Exchange
import CallChain.Proofs.Call.Ends

/-!
# How parts of the exchange end

A part of the exchange ends with a value, with the failure of the call, or in a panic.  The rules say
so for each way of putting such parts together, in terms of `Call.Runs`.
-/

set_option autoImplicit false

namespace CallChain.Exchange

open Call (Ends Runs)

variable {ρ α β : Type} {R : Resumption} {i i' : Invocation ρ} {w w' : World}

/-- The work behind two parts of an exchange, one after the other. -/
theorem work_bind (s : Step ρ α) (k : α → Step ρ β) (i : Invocation ρ) :
    (s >>= k).run.run.run i = (s.run.run.run i).bind fun r =>
      match r with
      | (.ok (.ok a), j) => (k a).run.run.run j
      | (.ok (.error e), j) => .done (.ok (.error e), j)
      | (.error p, j) => .done (.error p, j) := by
  show (s.run.run.run i).bind _ = _
  congr 1
  funext r
  obtain ⟨_ | _ | _, j⟩ := r <;> rfl

/-- The work behind work outside the invocation. -/
theorem work_lift (t : Attempt α) (i : Invocation ρ) :
    (lift t : Step ρ α).run.run.run i = t.run.bind fun r => .done (r.map Except.ok, i) := by
  show (t.run.bind _).bind _ = _
  rw [Work.bind_bind]
  congr 1
  funext r
  cases r <;> rfl

@[simp] theorem runs_pure_iff {a : α} {o : Except Panic (Except CallFailure α)} :
    Runs R (pure a : Step ρ α).run i w o i' w' ↔ o = .ok (.ok a) ∧ i' = i ∧ w' = w :=
  Call.runs_pure_iff

@[simp] theorem runs_throw_iff {e : CallFailure} {o : Except Panic (Except CallFailure α)} :
    Runs R (throw e : Step ρ α).run i w o i' w' ↔ o = .ok (.error e) ∧ i' = i ∧ w' = w :=
  Call.runs_pure_iff

/-- A failure or a panic of the first part is one of the whole. -/
theorem runs_bind_iff {s : Step ρ α} {k : α → Step ρ β} {o : Except Panic (Except CallFailure β)} :
    Runs R (s >>= k).run i w o i' w' ↔
      (∃ a i₁ w₁, Runs R s.run i w (.ok (.ok a)) i₁ w₁ ∧ Runs R (k a).run i₁ w₁ o i' w') ∨
        (∃ e, o = .ok (.error e) ∧ Runs R s.run i w (.ok (.error e)) i' w') ∨
          ∃ p, o = .error p ∧ Runs R s.run i w (.error p) i' w' := by
  have htree : (s >>= k).run = (s.run >>= fun r =>
      match r with
      | .ok a => (k a).run
      | .error e => pure (.error e) : Call ρ (Except CallFailure β)) :=
    congrArg (s.run >>= ·) (funext fun r => by cases r <;> rfl)
  rw [htree, Call.runs_bind_iff]
  constructor
  · rintro (⟨r, i₁, w₁, hs, hk⟩ | ⟨p, ho, hs⟩)
    · cases r with
      | ok a => exact .inl ⟨a, i₁, w₁, hs, hk⟩
      | error e =>
        obtain ⟨rfl, rfl, rfl⟩ := Call.runs_pure_iff.mp hk
        exact .inr (.inl ⟨e, rfl, hs⟩)
    · exact .inr (.inr ⟨p, ho, hs⟩)
  · rintro (⟨a, i₁, w₁, hs, hk⟩ | ⟨e, rfl, hs⟩ | ⟨p, ho, hs⟩)
    · exact .inl ⟨.ok a, i₁, w₁, hs, hk⟩
    · exact .inl ⟨.error e, i', w', hs, Call.runs_pure_iff.mpr ⟨rfl, rfl, rfl⟩⟩
    · exact .inr ⟨p, ho, hs⟩

/-- A part of a call inside the exchange cannot fail the call. -/
@[simp] theorem runs_lift_iff {c : Call ρ α} {o : Except Panic (Except CallFailure α)} :
    Runs R (ExceptT.lift c : Step ρ α).run i w o i' w' ↔
      (∃ a, o = .ok (.ok a) ∧ Runs R c i w (.ok a) i' w') ∨
        ∃ p, o = .error p ∧ Runs R c i w (.error p) i' w' := by
  have htree : (ExceptT.lift c : Step ρ α).run = (c >>= fun a => pure (.ok a)) := rfl
  rw [htree, Call.runs_bind_iff]
  simp only [Call.runs_pure_iff]
  constructor
  · rintro (⟨a, i₁, w₁, hc, rfl, rfl, rfl⟩ | ⟨p, ho, hc⟩)
    · exact .inl ⟨a, rfl, hc⟩
    · exact .inr ⟨p, ho, hc⟩
  · rintro (⟨a, rfl, hc⟩ | ⟨p, ho, hc⟩)
    · exact .inl ⟨a, i', w', hc, rfl, rfl, rfl⟩
    · exact .inr ⟨p, ho, hc⟩

@[simp] theorem runs_get_iff {o : Except Panic (Except CallFailure (Invocation ρ))} :
    Runs R (get : Step ρ (Invocation ρ)).run i w o i' w' ↔
      o = .ok (.ok i) ∧ i' = i ∧ w' = w := by
  show Work.Ends R (.done (.ok (.ok i), i)) w (o, i') w' ↔ _
  simp [and_assoc]

@[simp] theorem runs_set_iff {j : Invocation ρ} {o : Except Panic (Except CallFailure PUnit)} :
    Runs R (set j : Step ρ PUnit).run i w o i' w' ↔ o = .ok (.ok ()) ∧ i' = j ∧ w' = w := by
  show Work.Ends R (.done (.ok (.ok ()), j)) w (o, i') w' ↔ _
  simp [and_assoc]

@[simp] theorem runs_log_iff {ctx : CallContext} {level : Level} {message : String}
    {fields : LogFields} {o : Except Panic (Except CallFailure Unit)} :
    Runs R (log ctx level message fields : Step ρ Unit).run i w o i' w' ↔
      o = .ok (.ok ()) ∧ i' = i ∧
        w' = w.record (.logged ⟨level, message, fields, ctx.span⟩) := by
  rw [log, runs_lift_iff]
  simp only [Call.runs_log_iff]
  constructor
  · rintro (⟨a, rfl, -, rfl, rfl⟩ | ⟨p, -, h, -⟩)
    · exact ⟨rfl, rfl, rfl⟩
    · cases h
  · rintro ⟨rfl, rfl, rfl⟩
    exact .inl ⟨(), rfl, trivial, rfl, rfl⟩

/-- A first part that runs in one way only is carried out. -/
theorem ends_certain_bind_iff {s : Step ρ α} {k : α → Step ρ β} {a : α} {i₁ : Invocation ρ}
    {w₁ : World}
    (hs : ∀ (o : Except Panic (Except CallFailure α)) (i' : Invocation ρ) (w' : World),
      Runs R s.run i w o i' w' ↔ o = .ok (.ok a) ∧ i' = i₁ ∧ w' = w₁)
    {d : Departure ρ (Except CallFailure β)} :
    Ends R (s >>= k).run i w d ↔ Ends R (k a).run i₁ w₁ d := by
  simp only [Ends, runs_bind_iff, hs]
  constructor
  · rintro ⟨w', hw, ⟨b, i₂, w₂, ⟨hb, rfl, rfl⟩, hk⟩ | ⟨e, -, he, -⟩ | ⟨p, -, hp, -⟩⟩
    · cases hb
      exact ⟨w', hw, hk⟩
    · cases he
    · cases hp
  · rintro ⟨w', hw, hk⟩
    exact ⟨w', hw, .inl ⟨a, i₁, w₁, ⟨rfl, rfl, rfl⟩, hk⟩⟩

theorem ends_get_bind_iff {k : Invocation ρ → Step ρ β}
    {d : Departure ρ (Except CallFailure β)} :
    Ends R (get >>= k).run i w d ↔ Ends R (k i).run i w d :=
  ends_certain_bind_iff fun _ _ _ => runs_get_iff

theorem ends_pure_iff {a : α} {d : Departure ρ (Except CallFailure α)} :
    Ends R (pure a : Step ρ α).run i w d ↔ d = ⟨.ok (.ok a), i, w.quiet⟩ :=
  Call.ends_of_runs fun _ _ _ => runs_pure_iff

theorem ends_set_iff {j : Invocation ρ} {d : Departure ρ (Except CallFailure PUnit)} :
    Ends R (set j : Step ρ PUnit).run i w d ↔ d = ⟨.ok (.ok ()), j, w.quiet⟩ :=
  Call.ends_of_runs fun _ _ _ => runs_set_iff

/-- A failure that is logged and thrown. -/
theorem ends_log_throw_iff {ctx : CallContext} {level : Level} {message : String}
    {fields : LogFields} {k : Unit → Step ρ β} {e : CallFailure}
    {d : Departure ρ (Except CallFailure β)} (hk : ∀ u, k u = throw e) :
    Ends R (log ctx level message fields >>= k).run i w d ↔ d = ⟨.ok (.error e), i, w.quiet⟩ := by
  rw [ends_certain_bind_iff fun _ _ _ => runs_log_iff, hk,
    Call.ends_of_runs fun _ _ _ => runs_throw_iff, World.quiet_record_logged]

/-- What follows a part of the exchange may log, and otherwise only turns one departure into another;
a failure stays what it is. -/
theorem ends_bind_iff {s : Step ρ α} {k : α → Step ρ β}
    (f : α → Invocation ρ → World → Departure ρ (Except CallFailure β))
    (hk : ∀ (a : α) (i₁ : Invocation ρ) (w₁ : World) (d : Departure ρ (Except CallFailure β)),
      Ends R (k a).run i₁ w₁ d ↔ d = f a i₁ w₁.quiet) {d : Departure ρ (Except CallFailure β)} :
    Ends R (s >>= k).run i w d ↔
      ∃ e : Departure ρ (Except CallFailure α), Ends R s.run i w e ∧
        d = e.andThen fun r i₁ v => match r with
          | .ok a => f a i₁ v
          | .error x => ⟨.ok (.error x), i₁, v⟩ := by
  have htree : (s >>= k).run = (s.run >>= fun r =>
      match r with
      | .ok a => (k a).run
      | .error e => pure (.error e) : Call ρ (Except CallFailure β)) :=
    congrArg (s.run >>= ·) (funext fun r => by cases r <;> rfl)
  rw [htree]
  refine Call.ends_bind_iff _ fun r i₁ w₁ d => ?_
  cases r with
  | ok a => exact hk a i₁ w₁ d
  | error x => exact Call.ends_pure_iff

end CallChain.Exchange
