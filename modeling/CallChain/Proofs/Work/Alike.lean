import CallChain.Proofs.Work.Ends
import CallChain.Proofs.Work.Quiet
import CallChain.Work.Attempt

/-!
# Work that differs in its log only

Two pieces of work are alike if they take the same steps and, begun in worlds that differ in their logs
only, stay in such worlds and end with related values.  `Work.Alike` is kept by every way of putting
work together, and `Alike.ends` carries an end of one piece over to the other.
-/

set_option autoImplicit false

namespace CallChain

/-- Two changes that keep worlds apart in their logs only. -/
def World.AlikeChanges (f f' : World → World) : Prop :=
  ∀ w w' : World, w.quiet = w'.quiet → (f w).quiet = (f' w').quiet

namespace World.AlikeChanges

theorem rfl_id : AlikeChanges id id := fun _ _ h => h

theorem comp {f f' g g' : World → World} (hf : AlikeChanges f f') (hg : AlikeChanges g g') :
    AlikeChanges (fun w => g (f w)) fun w => g' (f' w) :=
  fun w w' h => hg _ _ (hf w w' h)

/-- A change that does the same to the world without its log. -/
theorem of_quiet {f : World → World} (hf : ∀ w, (f w).quiet = f w.quiet) : AlikeChanges f f := by
  intro w w' h
  rw [hf, h, hf]

/-- A log record is no change. -/
theorem logged {r r' : LogRecord} :
    AlikeChanges (World.record (.logged r)) (World.record (.logged r')) := by
  intro w w' h
  rw [quiet_record_logged, quiet_record_logged, h]

theorem record {e : Event} (he : e.isLog = false) : AlikeChanges (World.record e) (World.record e) := by
  refine of_quiet fun w => ?_
  simp [quiet, World.record, he]

end World.AlikeChanges

/-- What is waited for does not depend on the log. -/
theorem Guard.holds_congr (g : Guard) {w w' : World} (h : w.quiet = w'.quiet) :
    g.holds w = g.holds w' := by
  have hquiet (v : World) : g.holds v.quiet = g.holds v := by
    induction g with
    | reached | cancelled | granted => rfl
    | either a b iha ihb => simp only [holds, iha, ihb]
    | since place g ih => simp only [holds, ih]
  rw [← hquiet w, h, hquiet w']

/-- A resumption that does not look at the log. -/
def Resumption.Blind (R : Resumption) : Prop :=
  ∀ (g : Guard) (w w₁ v : World), R g w w₁ → w.quiet = v.quiet → ∃ v₁, R g v v₁ ∧ w₁.quiet = v₁.quiet

namespace World

theorem cancel_quiet (t : Token) (w : World) : w.quiet.cancel t = (w.cancel t).quiet := by
  unfold cancel
  split <;> rfl

/-- Waiting alone takes the same course without the log. -/
theorem settleWith_quiet (g : Guard) (agenda : List (Tick × Token)) (w : World) :
    settleWith g agenda w.quiet = (settleWith g agenda w).map quiet := by
  induction agenda generalizing w with
  | nil =>
    unfold settleWith
    have hholds : g.holds { w.quiet with agenda := [] } = g.holds { w with agenda := [] } :=
      g.holds_congr (quiet_quiet { w with agenda := [] })
    dsimp only
    rw [hholds]
    split
    · rfl
    · split <;> rfl
  | cons a rest ih =>
    obtain ⟨due, token⟩ := a
    rw [settleWith, settleWith]
    have hholds : g.holds { w.quiet with agenda := (due, token) :: rest } =
        g.holds { w with agenda := (due, token) :: rest } :=
      g.holds_congr (quiet_quiet { w with agenda := (due, token) :: rest })
    have hcancel : cancel token { w.quiet with agenda := (due, token) :: rest } =
        (cancel token { w with agenda := (due, token) :: rest }).quiet :=
      cancel_quiet token { w with agenda := (due, token) :: rest }
    have hrest := ih
      { cancel token { w with agenda := (due, token) :: rest } with
        clock := w.clock.tickTo due, agenda := rest }
    dsimp only
    rw [hholds, hcancel]
    split
    · rfl
    · split
      · split
        · rfl
        · exact hrest
      · exact hrest

theorem settle_quiet (g : Guard) (w : World) : w.quiet.settle g = (w.settle g).map quiet :=
  settleWith_quiet g w.agenda w

end World

/-- Work that runs alone does not look at the log. -/
theorem Work.alone_blind : Resumption.Blind alone := by
  intro g w w₁ v h hw
  have hsettle : (v.settle g).map World.quiet = some w₁.quiet := by
    rw [← World.settle_quiet, ← hw, World.settle_quiet, show w.settle g = some w₁ from h]
    rfl
  obtain ⟨v₁, hv₁, hquiet⟩ := Option.map_eq_some_iff.mp hsettle
  exact ⟨v₁, hv₁, hquiet.symm⟩

namespace Work

variable {α β γ δ : Type}

/-- Two pieces of work with the same steps, which differ in their logs only. -/
inductive Alike (V : α → β → Prop) : Work α → Work β → Prop where
  | done {a : α} {b : β} : V a b → Alike V (.done a) (.done b)
  | act {f f' : World → World} {next : World → Work α} {next' : World → Work β} :
      World.AlikeChanges f f' →
      (∀ w w' : World, w.quiet = w'.quiet → Alike V (next w) (next' w')) →
      Alike V (.act f next) (.act f' next')
  | wait {g : Guard} {d d' : World → World} {next : Work α} {next' : Work β} :
      World.AlikeChanges d d' → Alike V next next' → Alike V (.wait g d next) (.wait g d' next')

namespace Alike

variable {V : α → β → Prop} {V' : γ → δ → Prop} {p : Work α} {q : Work β}

/-- An end of one piece of work is an end of the other. -/
theorem ends {R : Resumption} (hR : R.Blind) {w w' v : World} {a : α} (h : Alike V p q)
    (hends : Ends R p w a w') (hw : w.quiet = v.quiet) :
    ∃ b v', Ends R q v b v' ∧ V a b ∧ w'.quiet = v'.quiet := by
  induction h generalizing w v with
  | done hab =>
    obtain ⟨rfl, rfl⟩ := ends_done_iff.mp hends
    exact ⟨_, v, .done _ v, hab, hw⟩
  | act hf _ ih =>
    have hrest := ends_act_iff.mp hends
    obtain ⟨b, v', hends', hab, hw'⟩ := ih w v hw hrest (hf w v hw)
    exact ⟨b, v', .act hends', hab, hw'⟩
  | wait _ _ ih =>
    obtain ⟨w₁, hr, hrest⟩ := ends_wait_iff.mp hends
    obtain ⟨v₁, hr', hw₁⟩ := hR _ _ _ _ hr hw
    obtain ⟨b, v', hends', hab, hw'⟩ := ih hrest hw₁
    exact ⟨b, v', .wait hr' hends', hab, hw'⟩

theorem bind {k : α → Work γ} {l : β → Work δ} (h : Alike V p q)
    (hk : ∀ a b, V a b → Alike V' (k a) (l b)) : Alike V' (p.bind k) (q.bind l) := by
  induction h with
  | done hab => exact hk _ _ hab
  | act hf _ ih => exact .act hf ih
  | wait hd _ ih => exact .wait hd ih

theorem guarded {release release' : World → World} (h : Alike V p q)
    (hrelease : World.AlikeChanges release release') :
    Alike V (p.guarded release) (q.guarded release') := by
  induction h with
  | done hab => exact .act hrelease fun _ _ _ => .done hab
  | act hf _ ih => exact .act hf ih
  | wait hd _ ih => exact .wait (hd.comp hrelease) ih

/-- The values of two pieces of work that may have been given up. -/
def Both (V : α → β → Prop) : Option α → Option β → Prop
  | none, none => True
  | some a, some b => V a b
  | _, _ => False

theorem interruptedBy {stop : Guard} (h : Alike V p q) :
    Alike (Both V) (p.interruptedBy stop) (q.interruptedBy stop) := by
  induction h with
  | done hab => exact .done hab
  | act hf _ ih => exact .act hf ih
  | @wait g d d' next next' hd _ ih =>
    refine .act World.AlikeChanges.rfl_id fun w w' hw => ?_
    rw [g.holds_congr hw]
    split
    · exact ih
    · refine .wait hd (.act World.AlikeChanges.rfl_id fun v v' hv => ?_)
      rw [stop.holds_congr hv]
      split
      · exact .act hd fun _ _ _ => .done trivial
      · exact ih

theorem limitedTo {limit : Guard} (h : Alike V p q) :
    Alike (Both V) (p.limitedTo limit) (q.limitedTo limit) := by
  induction h with
  | done hab => exact .done hab
  | act hf _ ih => exact .act hf ih
  | @wait g d d' next next' hd _ ih =>
    refine .act World.AlikeChanges.rfl_id fun w w' hw => ?_
    rw [g.holds_congr hw]
    split
    · exact ih
    · refine .wait hd (.act World.AlikeChanges.rfl_id fun v v' hv => ?_)
      rw [g.holds_congr hv]
      split
      · exact ih
      · exact .act hd fun _ _ _ => .done trivial

theorem holding {writing : Bool} (h : Alike V p q) :
    Alike V (Work.holding writing p) (Work.holding writing q) := by
  refine .act (.of_quiet fun _ => rfl) fun w w' hw => ?_
  have hlock : w.lock = w'.lock := (congrArg World.lock hw :)
  rw [hlock]
  have hrelease : World.AlikeChanges
      (fun w => { w with lock := w.lock.giveBack w'.lock.nextTicket })
      (fun w => { w with lock := w.lock.giveBack w'.lock.nextTicket }) := .of_quiet fun _ => rfl
  exact .wait hrelease (h.guarded hrelease)

theorem unlessBefore {stop : Guard} (h : Alike V p q) :
    Alike (Both V) (Work.unlessBefore stop p) (Work.unlessBefore stop q) := by
  refine .act (.of_quiet fun _ => rfl) fun w w' hw => ?_
  have hplace : w.nextPlace = w'.nextPlace := (congrArg World.nextPlace hw :)
  rw [stop.holds_congr hw, hplace]
  split
  · exact .done trivial
  · exact h.interruptedBy

theorem within {d : Duration} (h : Alike V p q) :
    Alike (Both V) (Work.within d p) (Work.within d q) := by
  refine .act (.of_quiet fun _ => rfl) fun w w' hw => ?_
  have hplace : w.nextPlace = w'.nextPlace := (congrArg World.nextPlace hw :)
  have hnow : w.now = w'.now := (congrArg World.now hw :)
  rw [hplace, hnow]
  exact h.limitedTo

theorem both_eq {a b : Option α} (h : Both Eq a b) : a = b := by
  cases a with
  | none =>
    cases b with
    | none => rfl
    | some b => cases h
  | some a =>
    cases b with
    | none => cases h
    | some b => exact congrArg some h

theorem modify {f f' : World → World} (hf : World.AlikeChanges f f') :
    Alike Eq (Work.modify f) (Work.modify f') :=
  .act hf fun _ _ _ => .done rfl

/-- A change that both make, which answers the same. -/
theorem modifyGet {f : World → α × World} (hf : ∀ w w' : World, w.quiet = w'.quiet →
    (f w).1 = (f w').1 ∧ (f w).2.quiet = (f w').2.quiet) :
    Alike Eq (Work.modifyGet f) (Work.modifyGet f) :=
  .act (fun w w' h => (hf w w' h).2) fun w w' h => .done (hf w w' h).1

end Alike

end Work

/-- Two attempts that differ in their logs only. -/
def Attempt.Alike {α : Type} (t t' : Attempt α) : Prop := Work.Alike Eq t.run t'.run

namespace Attempt.Alike

variable {α β : Type} {t t' : Attempt α}

theorem pure (a : α) : Attempt.Alike (Pure.pure a) (Pure.pure a) := .done rfl

theorem bind {k l : α → Attempt β} (h : Attempt.Alike t t')
    (hk : ∀ a, Attempt.Alike (k a) (l a)) : Attempt.Alike (t >>= k) (t' >>= l) := by
  refine Work.Alike.bind h ?_
  rintro r _ rfl
  cases r with
  | ok a => exact hk a
  | error p => exact .done rfl

theorem lift {p q : Work α} (h : Work.Alike Eq p q) :
    Attempt.Alike (p : Attempt α) (q : Attempt α) := by
  refine Work.Alike.bind h ?_
  rintro a _ rfl
  exact .done rfl

/-- A change that both attempts make, and go on. -/
theorem modify_bind {f f' : World → World} {k l : Unit → Attempt β} (hf : World.AlikeChanges f f')
    (hk : Attempt.Alike (k ()) (l ())) :
    Attempt.Alike ((Work.modify f : Attempt Unit) >>= k) ((Work.modify f' : Attempt Unit) >>= l) :=
  bind (lift (.modify hf)) fun _ => hk

theorem look_bind {k l : World → Attempt β}
    (hk : ∀ w w' : World, w.quiet = w'.quiet → Attempt.Alike (k w) (l w')) :
    Attempt.Alike ((Work.look : Attempt World) >>= k) ((Work.look : Attempt World) >>= l) :=
  .act .rfl_id hk

theorem holding {writing : Bool} (h : Attempt.Alike t t') :
    Attempt.Alike (Attempt.holding writing t) (Attempt.holding writing t') :=
  Work.Alike.holding h

theorem unlessBefore {stop : Guard} (h : Attempt.Alike t t') :
    Attempt.Alike (Attempt.unlessBefore stop t) (Attempt.unlessBefore stop t') := by
  refine Work.Alike.bind (Work.Alike.unlessBefore h) fun o o' ho => ?_
  rw [Work.Alike.both_eq ho]
  exact .done rfl

theorem within {limit : Option Duration} (h : Attempt.Alike t t') :
    Attempt.Alike (Attempt.within limit t) (Attempt.within limit t') := by
  cases limit with
  | none => exact bind h fun a => pure (some a)
  | some d =>
    refine Work.Alike.bind (Work.Alike.within h) fun o o' ho => ?_
    rw [Work.Alike.both_eq ho]
    exact .done rfl

end Attempt.Alike

end CallChain
