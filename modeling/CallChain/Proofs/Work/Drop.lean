import CallChain.Proofs.Work.Race
import CallChain.Work.Attempt

/-!
# Work that is given up

A race that is lost and a limit that is there first end work at one of its waits.  `Work.Dropped` says so: the
waits before go on as one resumption allows, the last one ends as another says, and what has to be put in
order there is put in order.  `ends_interruptedBy_none_iff` and `ends_limitedTo_none_iff` find the two
resumptions for the two ways of giving work up.

What happens at once is not asked about by either.  `Work.Keeps` says of the rest of the work that it keeps a
property of the world, and then the property is there whenever the work has not been given up.
-/

set_option autoImplicit false

namespace CallChain

namespace Resumption

variable (R : Resumption)

/-- How waits go on within a limit: not at all if what is waited for is there, and otherwise until it is
there. -/
def limited (limit : Guard) : Resumption := fun g w w₁ =>
  if g.holds w then w₁ = w else R (.either limit g) w w₁ ∧ g.holds w₁ = true

/-- The waits at which a race is lost: they end, and the guard holds. -/
def lost (stop : Guard) : Resumption := fun g w w₁ =>
  g.holds w = false ∧ R (.either stop g) w w₁ ∧ stop.holds w₁ = true

/-- The waits at which a limit is there first: they end, and what was waited for is not there. -/
def late (limit : Guard) : Resumption := fun g w w₁ =>
  g.holds w = false ∧ R (.either limit g) w w₁ ∧ g.holds w₁ = false

/-- Every wait goes on in one way at most. -/
def Single : Prop := ∀ g w w₁ w₂, R g w w₁ → R g w w₂ → w₁ = w₂

variable {R}

theorem Single.raced (hR : R.Single) (stop : Guard) : (R.raced stop).Single := by
  intro g w w₁ w₂ h h'
  unfold Resumption.raced at h h'
  cases hthere : g.holds w with
  | true =>
    rw [hthere, if_pos rfl] at h h'
    rw [h, h']
  | false =>
    rw [hthere, if_neg (by simp)] at h h'
    exact hR _ _ _ _ h.1 h'.1

/-- Where every wait goes on in one way at most, a race is not both lost and gone on with. -/
theorem Single.not_raced_of_lost (hR : R.Single) {stop g : Guard} {w w₁ w₂ : World}
    (h : R.lost stop g w w₁) : ¬ R.raced stop g w w₂ := by
  obtain ⟨hthere, hwait, hstop⟩ := h
  intro h'
  rw [Resumption.raced, hthere, if_neg (by simp)] at h'
  rw [hR _ _ _ _ h'.1 hwait, hstop] at h'
  cases h'.2

end Resumption

namespace Work

variable {α β : Type}

/-- Begun in the first world, the work can be given up at one of its waits and leave the second world
behind: earlier waits go on as `R` allows, and that one ends as `last` says. -/
inductive Dropped (R last : Resumption) : Work α → World → World → Prop where
  | act {f : World → World} {next : World → Work α} {w w' : World} :
      Dropped R last (next w) (f w) w' → Dropped R last (.act f next) w w'
  | passed {g : Guard} {d : World → World} {next : Work α} {w w₁ w' : World} :
      R g w w₁ → Dropped R last next w₁ w' → Dropped R last (.wait g d next) w w'
  | here {g : Guard} {d : World → World} {next : Work α} {w w₁ : World} :
      last g w w₁ → Dropped R last (.wait g d next) w (d w₁)

section

variable {R last : Resumption} {w w' : World}

/-- Work that is done cannot be given up. -/
@[simp] theorem not_dropped_done {a : α} : ¬ (Work.done a).Dropped R last w w' := nofun

@[simp] theorem dropped_act_iff {f : World → World} {next : World → Work α} :
    (Work.act f next).Dropped R last w w' ↔ (next w).Dropped R last (f w) w' := by
  constructor
  · intro h
    cases h
    assumption
  · exact .act

@[simp] theorem dropped_wait_iff {g : Guard} {d : World → World} {next : Work α} :
    (Work.wait g d next).Dropped R last w w' ↔
      (∃ w₁, R g w w₁ ∧ next.Dropped R last w₁ w') ∨ ∃ w₁, last g w w₁ ∧ w' = d w₁ := by
  constructor
  · intro h
    cases h with
    | passed hr h => exact .inl ⟨_, hr, h⟩
    | here hlast => exact .inr ⟨_, hlast, rfl⟩
  · rintro (⟨w₁, hr, h⟩ | ⟨w₁, hlast, rfl⟩)
    · exact .passed hr h
    · exact .here hlast

/-- Work followed by other work is given up in the first or, after the end of the first, in the other. -/
theorem dropped_bind_iff {p : Work α} {k : α → Work β} :
    (p.bind k).Dropped R last w w' ↔
      p.Dropped R last w w' ∨ ∃ a w₁, Ends R p w a w₁ ∧ (k a).Dropped R last w₁ w' := by
  induction p generalizing w with
  | done a =>
    simp only [bind, not_dropped_done, ends_done_iff, false_or]
    constructor
    · intro h
      exact ⟨a, w, ⟨rfl, rfl⟩, h⟩
    · rintro ⟨a, w, ⟨rfl, rfl⟩, h⟩
      exact h
  | act f next ih => simp only [bind, dropped_act_iff, ends_act_iff, ih]
  | wait g d next ih =>
    simp only [bind, dropped_wait_iff, ends_wait_iff, ih]
    constructor
    · rintro (⟨w₁, hr, h | ⟨a, w₂, h, hk⟩⟩ | hlast)
      · exact .inl (.inl ⟨w₁, hr, h⟩)
      · exact .inr ⟨a, w₂, ⟨w₁, hr, h⟩, hk⟩
      · exact .inl (.inr hlast)
    · rintro ((⟨w₁, hr, h⟩ | hlast) | ⟨a, w₂, ⟨w₁, hr, h⟩, hk⟩)
      · exact .inl ⟨w₁, hr, .inl h⟩
      · exact .inr hlast
      · exact .inl ⟨w₁, hr, .inr ⟨a, w₂, h, hk⟩⟩

/-- Where every wait goes on in one way at most, work ends in one way at most. -/
theorem Ends.unique (hR : R.Single) {p : Work α} {a b : α} {w'' : World} (h : Ends R p w a w')
    (h' : Ends R p w b w'') : a = b ∧ w' = w'' := by
  induction h with
  | done a w =>
    cases h'
    exact ⟨rfl, rfl⟩
  | act h ih => exact ih (ends_act_iff.mp h')
  | wait hr h ih =>
    obtain ⟨w₂, hr', h'⟩ := ends_wait_iff.mp h'
    obtain rfl := hR _ _ _ _ hr hr'
    exact ih h'

/-- Work is not both given up and done, if a wait is not both the last one and gone on with. -/
theorem Dropped.not_ends (hR : R.Single) (hlast : ∀ g w w₁ w₂, last g w w₁ → ¬ R g w w₂)
    {p : Work α} {a : α} {w'' : World} (h : p.Dropped R last w w') : ¬ Ends R p w a w'' := by
  induction h with
  | act h ih => rwa [ends_act_iff]
  | passed hr h ih =>
    rw [ends_wait_iff]
    rintro ⟨w₂, hr', h'⟩
    obtain rfl := hR _ _ _ _ hr hr'
    exact ih h'
  | here h =>
    rw [ends_wait_iff]
    rintro ⟨w₂, hr', -⟩
    exact hlast _ _ _ _ h hr'

theorem alone_single : alone.Single := fun _ _ _ _ h h' => Option.some.inj (h.symm.trans h')

/-- A race is lost at a wait after which the guard holds. -/
theorem ends_interruptedBy_none_iff {p : Work α} {stop : Guard} :
    Ends R (p.interruptedBy stop) w none w' ↔ p.Dropped (R.raced stop) (R.lost stop) w w' := by
  induction p generalizing w with
  | done a => simp [interruptedBy]
  | act f next ih => simp only [interruptedBy, ends_act_iff, dropped_act_iff, ih]
  | wait g d next ih =>
    simp only [interruptedBy, ends_act_iff, dropped_wait_iff, id, Resumption.raced, Resumption.lost]
    cases g.holds w with
    | true => simp [ih]
    | false =>
      simp only [Bool.false_eq_true, if_false, ends_wait_iff, ends_act_iff, true_and]
      constructor
      · rintro ⟨w₁, hr, h⟩
        cases hstop : stop.holds w₁ with
        | true =>
          simp only [hstop, if_true, ends_act_iff, ends_done_iff, true_and] at h
          exact .inr ⟨w₁, ⟨hr, hstop⟩, h⟩
        | false =>
          rw [hstop, if_neg (by simp), ih] at h
          exact .inl ⟨w₁, ⟨hr, hstop⟩, h⟩
      · rintro (⟨w₁, ⟨hr, hstop⟩, h⟩ | ⟨w₁, ⟨hr, hstop⟩, rfl⟩)
        · refine ⟨w₁, hr, ?_⟩
          rw [hstop, if_neg (by simp), ih]
          exact h
        · refine ⟨w₁, hr, ?_⟩
          rw [hstop, if_pos rfl]
          exact .act (.done _ _)

/-- Work that comes to its end within a limit ends as it does by itself. -/
theorem ends_limitedTo_iff {p : Work α} {limit : Guard} {a : α} :
    Ends R (p.limitedTo limit) w (some a) w' ↔ Ends (R.limited limit) p w a w' := by
  induction p generalizing w with
  | done b => simp only [limitedTo, ends_done_iff, Option.some.injEq]
  | act f next ih => simp only [limitedTo, ends_act_iff, ih]
  | wait g d next ih =>
    simp only [limitedTo, ends_act_iff, ends_wait_iff, id, Resumption.limited]
    cases g.holds w with
    | true => simp [ih]
    | false =>
      simp only [Bool.false_eq_true, if_false, ends_wait_iff, ends_act_iff, and_assoc]
      refine exists_congr fun w₁ => and_congr_right fun _ => ?_
      cases g.holds w₁ with
      | true => simp [ih]
      | false => simp

/-- A limit is there first at a wait after which what was waited for is not there. -/
theorem ends_limitedTo_none_iff {p : Work α} {limit : Guard} :
    Ends R (p.limitedTo limit) w none w' ↔ p.Dropped (R.limited limit) (R.late limit) w w' := by
  induction p generalizing w with
  | done a => simp [limitedTo]
  | act f next ih => simp only [limitedTo, ends_act_iff, dropped_act_iff, ih]
  | wait g d next ih =>
    simp only [limitedTo, ends_act_iff, dropped_wait_iff, id, Resumption.limited, Resumption.late]
    cases g.holds w with
    | true => simp [ih]
    | false =>
      simp only [Bool.false_eq_true, if_false, ends_wait_iff, ends_act_iff, true_and]
      constructor
      · rintro ⟨w₁, hr, h⟩
        cases hthere : g.holds w₁ with
        | true =>
          rw [hthere, if_pos rfl, ih] at h
          exact .inl ⟨w₁, ⟨hr, hthere⟩, h⟩
        | false =>
          simp only [hthere, Bool.false_eq_true, if_false, ends_act_iff, ends_done_iff, true_and] at h
          exact .inr ⟨w₁, ⟨hr, hthere⟩, h⟩
      · rintro (⟨w₁, ⟨hr, hthere⟩, h⟩ | ⟨w₁, ⟨hr, hthere⟩, rfl⟩)
        · refine ⟨w₁, hr, ?_⟩
          rw [hthere, if_pos rfl, ih]
          exact h
        · refine ⟨w₁, hr, ?_⟩
          rw [hthere, if_neg (by simp)]
          exact .act (.done _ _)

end

end Work

/-- The guard of a time limit that is set in the world. -/
def World.timer (d : Duration) (w : World) : Guard := .since w.nextPlace (.reached (w.now + d.nanos))

namespace Attempt

variable {α : Type} {R : Resumption} {t : Attempt α} {w w' : World} {x : Except Panic (Option α)}

/-- Without a limit, work ends as it does by itself. -/
theorem ends_within_none_iff :
    Work.Ends R (within none t).run w x w' ↔ ∃ r, Work.Ends R t.run w r w' ∧ x = r.map some := by
  have htree : (within none t).run = t.run.bind fun r => .done (r.map some) := by
    show Work.bind _ _ = Work.bind _ _
    congr 1
    funext r
    cases r <;> rfl
  rw [htree, Work.ends_bind_iff]
  simp only [Work.ends_done_iff]
  constructor
  · rintro ⟨r, v, h, rfl, rfl⟩
    exact ⟨r, h, rfl⟩
  · rintro ⟨r, h, rfl⟩
    exact ⟨r, w', h, rfl, rfl⟩

/-- With a limit, work comes to its own end within the limit or is given up at it. -/
theorem ends_within_some_iff {d : Duration} :
    Work.Ends R (within (some d) t).run w x w' ↔
      (∃ r, Work.Ends (R.limited (w.timer d)) t.run w.takePlace r w' ∧ x = r.map some) ∨
        (t.run.Dropped (R.limited (w.timer d)) (R.late (w.timer d)) w.takePlace w' ∧ x = .ok none) := by
  have htree : (within (some d) t).run =
      .act World.takePlace fun w => (t.run.limitedTo (w.timer d)).bind fun y => .done (outcome y) := rfl
  rw [htree, Work.ends_act_iff, Work.ends_bind_iff, ← Work.ends_limitedTo_none_iff]
  simp only [← Work.ends_limitedTo_iff, Work.ends_done_iff]
  constructor
  · rintro ⟨_ | p | a, v, h, rfl, rfl⟩
    · exact .inr ⟨h, rfl⟩
    · exact .inl ⟨_, h, rfl⟩
    · exact .inl ⟨_, h, rfl⟩
  · rintro (⟨p | a, h, rfl⟩ | ⟨h, rfl⟩)
    · exact ⟨_, w', h, rfl, rfl⟩
    · exact ⟨_, w', h, rfl, rfl⟩
    · exact ⟨_, w', h, rfl, rfl⟩

end Attempt

namespace Work

variable {α β : Type}

/-! ### What happens at once -/

/-- What the work does at once keeps a property of the world. -/
def Keeps (P : World → Prop) : Work α → Prop
  | .done _ => True
  | .act f next => ∀ w, (P w → P (f w)) ∧ (next w).Keeps P
  | .wait _ _ next => next.Keeps P

namespace Keeps

variable {P : World → Prop}

theorem bind {p : Work α} {k : α → Work β} (hp : p.Keeps P) (hk : ∀ a, (k a).Keeps P) :
    (p.bind k).Keeps P := by
  induction p with
  | done a => exact hk a
  | act f next ih => exact fun w => ⟨(hp w).1, ih w (hp w).2⟩
  | wait g d next ih => exact ih hp

theorem guarded {p : Work α} {release : World → World} (hrelease : ∀ w, P w → P (release w))
    (hp : p.Keeps P) : (p.guarded release).Keeps P := by
  induction p with
  | done a => exact fun w => ⟨hrelease w, trivial⟩
  | act f next ih => exact fun w => ⟨(hp w).1, ih w (hp w).2⟩
  | wait g d next ih => exact ih hp

/-- If the property holds after each wait as well, it holds at the end. -/
theorem of_ends {R : Resumption} {p : Work α} {w w' : World} {a : α} (hp : p.Keeps P)
    (hR : ∀ g w w₁, P w → R g w w₁ → P w₁) (h : Ends R p w a w') (hw : P w) : P w' := by
  induction h with
  | done a w => exact hw
  | act h ih => exact ih (hp _).2 ((hp _).1 hw)
  | wait hr h ih => exact ih hp (hR _ _ _ hw hr)

end Keeps

end Work

end CallChain
