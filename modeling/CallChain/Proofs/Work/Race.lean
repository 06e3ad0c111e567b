import CallChain.Proofs.Connection.Interleaving
import CallChain.Proofs.Work.Ends

/-!
# Work that nobody disturbs

Work that is given up as soon as a guard holds comes to a value of its own exactly as the work by itself
does, when its waits go on only while that guard does not hold (`ends_interruptedBy_iff`).  So a race is one
more way in which waits go on.

While nobody disturbs work, its waits leave the lock and the connection alone and end when what was waited
for is there.  Work that runs alone is not disturbed (`alone_undisturbed`), and a race disturbs nothing.
-/

set_option autoImplicit false

namespace CallChain

/-- The lock and the connection are as they were. -/
structure World.Spared (w w' : World) : Prop where
  lock : w'.lock = w.lock
  connection : w'.connection = w.connection

namespace World.Spared

variable {w w₁ w₂ : World}

theorem refl (w : World) : w.Spared w := ⟨rfl, rfl⟩

theorem trans (h : w.Spared w₁) (h' : w₁.Spared w₂) : w.Spared w₂ :=
  ⟨h'.lock.trans h.lock, h'.connection.trans h.connection⟩

end World.Spared

/-- Waits leave the lock and the connection alone and end when what is waited for is there. -/
structure Resumption.Undisturbed (R : Resumption) : Prop where
  spares : ∀ {g w w₁}, R g w w₁ → w.Spared w₁
  heeds : ∀ {g w w₁}, R g w w₁ → g.holds w₁ = true

/-- How waits go on in a race that is not lost: not at all if what is waited for is there, and otherwise
until it is there and the guard does not hold. -/
def Resumption.raced (R : Resumption) (stop : Guard) : Resumption := fun g w w₁ =>
  if g.holds w then w₁ = w else R (.either stop g) w w₁ ∧ stop.holds w₁ = false

theorem Resumption.Undisturbed.raced {R : Resumption} (hR : R.Undisturbed) (stop : Guard) :
    (R.raced stop).Undisturbed where
  spares {g w w₁} h := by
    unfold Resumption.raced at h
    split at h
    · rw [h]
      exact .refl w
    · exact hR.spares h.1
  heeds {g w w₁} h := by
    unfold Resumption.raced at h
    split at h
    next hholds => rwa [h]
    next =>
      obtain ⟨hwait, hstop⟩ := h
      have heither := hR.heeds hwait
      simpa [Guard.holds, hstop] using heither

/-- A guard holds at the earliest tick it waits for. -/
theorem Guard.holds_of_earliest? {g : Guard} {t : Tick} {w : World} (h : g.earliest? = some t)
    (ht : t ≤ w.ticks) : g.holds w = true := by
  induction g generalizing t with
  | reached t' =>
    cases h
    exact decide_eq_true ht
  | cancelled token => cases h
  | granted ticket => cases h
  | since place g ih => exact ih h ht
  | either a b iha ihb =>
    unfold Guard.earliest? at h
    unfold Guard.holds
    rw [Bool.or_eq_true]
    split at h
    next s u ha hb =>
      cases h
      rcases Nat.le_total s u with hle | hle
      · exact .inl (iha ha (Nat.le_trans (Nat.le_of_eq (Nat.min_eq_left hle).symm) ht))
      · exact .inr (ihb hb (Nat.le_trans (Nat.le_of_eq (Nat.min_eq_right hle).symm) ht))
    next s ha hb =>
      cases h
      exact .inl (iha ha ht)
    next ha => exact .inr (ihb h ht)

namespace World

theorem holds_of_settleWith {g : Guard} {agenda : List (Tick × Token)} {w w₁ : World}
    (h : settleWith g agenda w = some w₁) : g.holds w₁ = true := by
  induction agenda generalizing w with
  | nil =>
    unfold settleWith at h
    dsimp only at h
    split at h
    next hholds =>
      cases h
      exact hholds
    next =>
      split at h
      next ht =>
        cases h
        exact Guard.holds_of_earliest? ht (Nat.le_max_right _ _)
      · cases h
  | cons a rest ih =>
    obtain ⟨due, token⟩ := a
    rw [settleWith] at h
    dsimp only at h
    split at h
    next hholds =>
      cases h
      exact hholds
    next =>
      split at h
      next ht =>
        split at h
        · cases h
          exact Guard.holds_of_earliest? ht (Nat.le_max_right _ _)
        · exact ih h
      · exact ih h

end World

namespace Work

variable {α : Type} {R : Resumption} {w w' : World} {a : α}

theorem alone_undisturbed : alone.Undisturbed where
  spares {g w w₁} h := by
    have hframe := World.settle_frame h
    exact ⟨by rw [hframe], by rw [hframe]⟩
  heeds h := World.holds_of_settleWith h

/-- A race that is not lost ends as the work does. -/
theorem ends_interruptedBy_iff {p : Work α} {stop : Guard} :
    Ends R (p.interruptedBy stop) w (some a) w' ↔ Ends (R.raced stop) p w a w' := by
  induction p generalizing w with
  | done b =>
    simp only [interruptedBy, ends_done_iff, Option.some.injEq]
  | act f next ih =>
    simp only [interruptedBy, ends_act_iff, ih]
  | wait g d next ih =>
    simp only [interruptedBy, ends_act_iff, ends_wait_iff, id, Resumption.raced]
    split
    next hholds =>
      rw [ih]
      simp only [exists_eq_left]
    next hholds =>
      rw [ends_wait_iff]
      refine exists_congr fun w₁ => ?_
      rw [ends_act_iff, and_assoc]
      refine and_congr_right fun _ => ?_
      cases stop.holds w₁ with
      | true => simp
      | false => simp [ih]

/-- What is put in order when work ends is in order afterwards. -/
theorem ends_guarded_iff {p : Work α} {release : World → World} :
    Ends R (p.guarded release) w a w' ↔ ∃ w₁, Ends R p w a w₁ ∧ w' = release w₁ := by
  induction p generalizing w with
  | done b =>
    simp only [guarded, ends_act_iff, ends_done_iff]
    constructor
    · rintro ⟨rfl, rfl⟩
      exact ⟨w, ⟨rfl, rfl⟩, rfl⟩
    · rintro ⟨w₁, ⟨rfl, rfl⟩, rfl⟩
      exact ⟨rfl, rfl⟩
  | act f next ih => simp only [guarded, ends_act_iff, ih]
  | wait g d next ih =>
    simp only [guarded, ends_wait_iff, ih]
    constructor
    · rintro ⟨w₁, hr, w₂, h, rfl⟩
      exact ⟨w₂, ⟨w₁, hr, h⟩, rfl⟩
    · rintro ⟨w₂, ⟨w₁, hr, h⟩, rfl⟩
      exact ⟨w₁, hr, w₂, h, rfl⟩

namespace Spares

/-- Nobody else disturbed, work that spares the lock and the connection leaves them as they were. -/
theorem of_ends {p : Work α} (hp : p.Spares) (hR : R.Undisturbed) (h : Ends R p w a w') :
    w.Spared w' := by
  induction h with
  | done a w => exact .refl w
  | @act f next w w' a h ih =>
    obtain ⟨hf, hnext⟩ := hp
    exact (⟨(hf w).1, (hf w).2⟩ : w.Spared (f w)).trans (ih (hnext w))
  | wait hr h ih => exact (hR.spares hr).trans (ih hp.2)

theorem bind {β : Type} {p : Work α} {k : α → Work β} (hp : p.Spares) (hk : ∀ a, (k a).Spares) :
    (p.bind k).Spares := by
  induction p with
  | done a => exact hk a
  | act f next ih => exact ⟨hp.1, fun w => ih w (hp.2 w)⟩
  | wait g d next ih => exact ⟨hp.1, ih hp.2⟩

/-- Work that may be given up spares what the work spares. -/
theorem interruptedBy {p : Work α} {stop : Guard} (hp : p.Spares) : (p.interruptedBy stop).Spares := by
  induction p with
  | done a => exact trivial
  | act f next ih => exact ⟨hp.1, fun w => ih w (hp.2 w)⟩
  | wait g d next ih =>
    refine ⟨fun _ => ⟨rfl, rfl⟩, fun w => ?_⟩
    dsimp only
    split
    · exact ih hp.2
    · refine ⟨hp.1, fun _ => ⟨rfl, rfl⟩, fun w₁ => ?_⟩
      dsimp only
      split
      · exact ⟨hp.1, fun _ => trivial⟩
      · exact ih hp.2

theorem limitedTo {p : Work α} {limit : Guard} (hp : p.Spares) : (p.limitedTo limit).Spares := by
  induction p with
  | done a => exact trivial
  | act f next ih => exact ⟨hp.1, fun w => ih w (hp.2 w)⟩
  | wait g d next ih =>
    refine ⟨fun _ => ⟨rfl, rfl⟩, fun w => ?_⟩
    dsimp only
    split
    · exact ih hp.2
    · refine ⟨hp.1, fun _ => ⟨rfl, rfl⟩, fun w₁ => ?_⟩
      dsimp only
      split
      · exact ih hp.2
      · exact ⟨hp.1, fun _ => trivial⟩

end Spares

end Work

end CallChain
