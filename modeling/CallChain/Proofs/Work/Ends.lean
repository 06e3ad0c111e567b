import CallChain.Work.Run

/-!
# How work ends

`Work.run` carries one piece of work to its end in a world that only the clock and the agenda change
while the work waits.  `Work.Ends` says the same of work among other work: whenever it waits, the world
it goes on in is any that a `Resumption` allows.  `run_eq_some_iff` ties the two together, so what is
proved for every resumption holds of a call that runs alone and of a call that runs among others.
-/

set_option autoImplicit false

namespace CallChain

/-- How a wait goes on: the guard that is waited for, the world the wait begins in, and the world it
ends in. -/
abbrev Resumption := Guard → World → World → Prop

namespace World

theorem cancel_frame (t : Token) (w : World) :
    w.cancel t = { w with cancelled := (w.cancel t).cancelled } := by
  unfold cancel
  split <;> rfl

/-- Waiting changes the clock, the cancelled tokens and the agenda, and nothing else. -/
theorem settleWith_frame {g : Guard} {agenda : List (Tick × Token)} {w w₁ : World}
    (h : settleWith g agenda w = some w₁) :
    w₁ = { w with clock := w₁.clock, cancelled := w₁.cancelled, agenda := w₁.agenda } := by
  induction agenda generalizing w with
  | nil =>
    unfold settleWith at h
    dsimp only at h
    split at h
    · cases h
      rfl
    · split at h
      · cases h
        rfl
      · cases h
  | cons a rest ih =>
    obtain ⟨due, token⟩ := a
    rw [settleWith] at h
    dsimp only at h
    split at h
    · cases h
      rfl
    · rw [cancel_frame] at h
      split at h
      · split at h
        · cases h
          rfl
        · have hrest := ih h
          exact hrest
      · have hrest := ih h
        exact hrest

theorem settle_frame {g : Guard} {w w₁ : World} (h : w.settle g = some w₁) :
    w₁ = { w with clock := w₁.clock, cancelled := w₁.cancelled, agenda := w₁.agenda } :=
  settleWith_frame h

end World

namespace Work

variable {α β : Type}

/-- Begun in the first world, the work can end with the value in the second one, when its waits go on
as the resumption allows. -/
inductive Ends (R : Resumption) : Work α → World → α → World → Prop where
  | done (a : α) (w : World) : Ends R (.done a) w a w
  | act {f : World → World} {next : World → Work α} {w w' : World} {a : α} :
      Ends R (next w) (f w) a w' → Ends R (.act f next) w a w'
  | wait {g : Guard} {d : World → World} {next : Work α} {w w₁ w' : World} {a : α} :
      R g w w₁ → Ends R next w₁ a w' → Ends R (.wait g d next) w a w'

section

variable {R : Resumption} {w w' : World}

@[simp] theorem ends_done_iff {a b : α} : Ends R (.done a) w b w' ↔ b = a ∧ w' = w := by
  constructor
  · intro h
    cases h
    exact ⟨rfl, rfl⟩
  · rintro ⟨rfl, rfl⟩
    exact .done b w'

@[simp] theorem ends_act_iff {f : World → World} {next : World → Work α} {a : α} :
    Ends R (.act f next) w a w' ↔ Ends R (next w) (f w) a w' := by
  constructor
  · intro h
    cases h
    assumption
  · exact .act

@[simp] theorem ends_wait_iff {g : Guard} {d : World → World} {next : Work α} {a : α} :
    Ends R (.wait g d next) w a w' ↔ ∃ w₁, R g w w₁ ∧ Ends R next w₁ a w' := by
  constructor
  · intro h
    cases h with
    | wait hr h => exact ⟨_, hr, h⟩
  · rintro ⟨w₁, hr, h⟩
    exact .wait hr h

/-- Work followed by other work ends where the other work ends that was begun where the first ended. -/
theorem ends_bind_iff {p : Work α} {k : α → Work β} {b : β} :
    Ends R (p.bind k) w b w' ↔ ∃ a w₁, Ends R p w a w₁ ∧ Ends R (k a) w₁ b w' := by
  induction p generalizing w with
  | done a => simp [bind, and_assoc]
  | act f next ih => simp only [bind, ends_act_iff, ih]
  | wait g d next ih =>
    simp only [bind, ends_wait_iff, ih]
    constructor
    · rintro ⟨w₁, hr, a, w₂, h, hk⟩
      exact ⟨a, w₂, ⟨w₁, hr, h⟩, hk⟩
    · rintro ⟨a, w₂, ⟨w₁, hr, h⟩, hk⟩
      exact ⟨w₁, hr, a, w₂, h, hk⟩

end

/-- The resumption of work that runs alone: a wait goes on in the first world in which its guard
holds. -/
def alone : Resumption := fun g w w₁ => w.settle g = some w₁

/-- Running work alone is one of the ways in which work can end. -/
theorem run_eq_some_iff {p : Work α} {w w' : World} {a : α} :
    p.run w = some (a, w') ↔ Ends alone p w a w' := by
  induction p generalizing w with
  | done b =>
    simp only [run, ends_done_iff, Option.some.injEq, Prod.mk.injEq]
    exact ⟨fun h => ⟨h.1.symm, h.2.symm⟩, fun h => ⟨h.1.symm, h.2.symm⟩⟩
  | act f next ih => simp only [run, ends_act_iff, ih]
  | wait g d next ih =>
    simp only [run, ends_wait_iff, alone]
    cases hs : w.settle g with
    | none => simp
    | some w₁ => simp [ih]

end Work

end CallChain
