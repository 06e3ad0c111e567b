import CallChain.Work.Basic

/-!
# Running work

The clock stands still while work acts and moves only while all of it waits: then it goes to the next
tick that is waited for or at which a token is due to be cancelled.  `Work.run` runs one piece of work
to its end, unless it waits for something that never comes; at one time it goes before cancellations.
`Crew.run` runs several over one world.  A piece runs until it waits.  Those that can go on queue up as
they become able to, and of those that one event makes able the one with the foremost place goes first;
at one time cancellations go before the pieces.
-/

set_option autoImplicit false

namespace CallChain

namespace World

/-- The world at the first moment a guard holds, with the agenda given apart; nothing if that never
comes. -/
def settleWith (g : Guard) : List (Tick × Token) → World → Option World
  | [], w =>
    let w := { w with agenda := [] }
    if g.holds w then some w
    else match g.earliest? with
      | some k => some { w with clock := w.clock.tickTo k }
      | none => none
  | (due, token) :: rest, w =>
    let w := { w with agenda := (due, token) :: rest }
    if g.holds w then some w
    else
      let fired : World := { w.cancel token with clock := w.clock.tickTo due, agenda := rest }
      match g.earliest? with
      | some k =>
        if k ≤ due then some { w with clock := w.clock.tickTo k } else settleWith g rest fired
      | none => settleWith g rest fired

/-- The world at the first moment a guard holds; nothing if that never comes. -/
def settle (g : Guard) (w : World) : Option World := settleWith g w.agenda w

end World

namespace Work

variable {α β : Type}

/-- Runs work to its end; nothing if it waits for something that never comes. -/
def run : Work α → World → Option (α × World)
  | .done a, w => some (a, w)
  | .act f next, w => (next w).run (f w)
  | .wait g _ next, w =>
    match w.settle g with
    | some w => next.run w
    | none => none

/-- Work followed by other work runs as the one and then the other. -/
theorem run_bind (p : Work α) (k : α → Work β) (w : World) :
    (p.bind k).run w = (p.run w).bind fun r => (k r.1).run r.2 := by
  induction p generalizing w with
  | done a => rfl
  | act f next ih => exact ih w (f w)
  | wait g d next ih =>
    simp only [bind, run]
    cases w.settle g with
    | none => rfl
    | some w => exact ih w

/-- What is left of work after one step of it. -/
inductive Below : Work α → Work α → Prop where
  | act (f : World → World) (next : World → Work α) (w : World) : Below (next w) (.act f next)
  | wait (g : Guard) (d : World → World) (next : Work α) : Below next (.wait g d next)

/-- Work has an end. -/
theorem below_acc (p : Work α) : Acc Below p := by
  induction p with
  | done a => exact ⟨_, fun q h => by cases h⟩
  | act f next ih => exact ⟨_, fun q h => by cases h; exact ih _⟩
  | wait g d next ih => exact ⟨_, fun q h => by cases h; exact ih⟩

/-- Whether work can go on at once. -/
def canStep (w : World) : Work α → Bool
  | .done _ => false
  | .act _ _ => true
  | .wait g _ _ => g.holds w

/-- The value of work that is done. -/
def value? : Work α → Option α
  | .done a => some a
  | _ => none

/-- What work waits for, if it waits. -/
def guard? : Work α → Option Guard
  | .wait g _ _ => some g
  | _ => none

end Work

/-- Several pieces of work over one world. -/
structure Crew (α : Type) where
  /-- The pieces, each in its place. -/
  pieces : List (Work α)
  /-- The pieces that can go on, by number, in the order in which they became able to. -/
  queue : List Nat

namespace Crew

variable {α : Type}

/-- What is left of a list of pieces after one step of one of them. -/
inductive Fewer : List (Work α) → List (Work α) → Prop where
  | head {p q : Work α} (rest : List (Work α)) : Work.Below p q → Fewer (p :: rest) (q :: rest)
  | tail (p : Work α) {rest rest' : List (Work α)} : Fewer rest' rest → Fewer (p :: rest') (p :: rest)

theorem fewer_acc_cons {p : Work α} (hp : Acc Work.Below p) {rest : List (Work α)}
    (hr : Acc Fewer rest) : Acc Fewer (p :: rest) := by
  induction hp generalizing rest with
  | intro p _ ihp =>
    induction hr with
    | intro rest hrest ihr =>
      refine ⟨_, fun l h => ?_⟩
      cases h with
      | head _ hb => exact ihp _ hb ⟨_, hrest⟩
      | tail _ hf => exact ihr _ hf

theorem fewer_acc (l : List (Work α)) : Acc Fewer l := by
  induction l with
  | nil => exact ⟨_, fun _ h => by cases h⟩
  | cons p rest ih => exact fewer_acc_cons (Work.below_acc p) ih

/-- One step of a crew leaves less to do. -/
def smaller (a b : Crew α) : Prop := Fewer a.pieces b.pieces

instance : WellFoundedRelation (Crew α) where
  rel := smaller
  wf := InvImage.wf Crew.pieces ⟨fewer_acc⟩

theorem fewer_set {l : List (Work α)} {i : Nat} {p q : Work α} (h : l[i]? = some q)
    (hb : Work.Below p q) : Fewer (l.set i p) l := by
  induction l generalizing i with
  | nil => simp at h
  | cons x r ih =>
    cases i with
    | zero => simp at h; subst h; exact .head r hb
    | succ i => simp at h; exact .tail x (ih h)

/-- Whether a piece can go on at once. -/
def canStep (c : Crew α) (w : World) (i : Nat) : Bool := c.pieces[i]?.any (·.canStep w)

/-- The place of a piece that waits for something that is there, and is not in the queue yet. -/
def wakingPlace? (c : Crew α) (w : World) (i : Nat) : Option (Nat × Nat) :=
  if c.queue.contains i then none
  else (c.pieces[i]?.bind Work.guard?).bind fun g => (g.place? w).map (·, i)

/-- The crew with the pieces that have become able to go on at the end of the queue. -/
def wake (c : Crew α) (w : World) : Crew α :=
  let woken := (List.range c.pieces.length).filterMap (c.wakingPlace? w)
  { c with queue := c.queue ++ (woken.mergeSort fun a b => a.1 ≤ b.1).map Prod.snd }

/-- The earliest tick that a piece waits for, if any. -/
def nextTick? (c : Crew α) : Option Tick :=
  (c.pieces.filterMap fun p => p.guard?.bind Guard.earliest?).min?

/-- The crew and the world when the next piece can go on, with the agenda given apart; nothing if that
never comes. -/
def advanceWith (c : Crew α) : List (Tick × Token) → World → Option (Crew α × World)
  | [], w => c.nextTick?.map fun k => ((c.wake { w with clock := w.clock.tickTo k }), w.tickTo k)
  | (due, _) :: rest, w =>
    match c.nextTick? with
    | some k =>
      if k ≤ due then some ((c.wake { w with clock := w.clock.tickTo k }).wake (w.tickTo k), w.tickTo k)
      else
        let c' := c.wake (w.tickTo due)
        if c'.queue.isEmpty then c.advanceWith rest (w.tickTo due) else some (c', w.tickTo due)
    | none =>
      let c' := c.wake (w.tickTo due)
      if c'.queue.isEmpty then c.advanceWith rest (w.tickTo due) else some (c', w.tickTo due)

/-- The piece to go on with, and the crew and the world it goes on in. -/
def pick (c : Crew α) (w : World) : Option (Nat × Crew α × World) :=
  match c.queue.dropWhile fun i => !c.canStep w i with
  | i :: r => some (i, { c with queue := i :: r }, w)
  | [] =>
    match { c with queue := [] : Crew α }.advanceWith w.agenda w with
    | some (c, w) => c.queue.head?.map (·, c, w)
    | none => none

def replace (c : Crew α) (i : Nat) (p : Work α) : Crew α := { c with pieces := c.pieces.set i p }

theorem pieces_advanceWith {c c' : Crew α} {agenda : List (Tick × Token)} {w w' : World}
    (h : c.advanceWith agenda w = some (c', w')) : c'.pieces = c.pieces := by
  induction agenda generalizing w with
  | nil =>
    simp only [advanceWith, Option.map_eq_some_iff] at h
    obtain ⟨t, _, h⟩ := h
    cases h
    rfl
  | cons a rest ih =>
    simp only [advanceWith] at h
    split at h
    · split at h
      · cases h; rfl
      · split at h
        · exact ih h
        · cases h; rfl
    · split at h
      · exact ih h
      · cases h; rfl

theorem pieces_pick {c c' : Crew α} {i : Nat} {w w' : World} (h : c.pick w = some (i, c', w')) :
    c'.pieces = c.pieces := by
  unfold pick at h
  split at h
  · cases h; rfl
  · split at h
    · rename_i hadv
      simp only [Option.map_eq_some_iff] at h
      obtain ⟨j, _, h⟩ := h
      cases h
      have hpieces := pieces_advanceWith hadv
      exact hpieces
    · cases h

/-- Runs the pieces until none can go on any more. -/
def runFrom (c : Crew α) (w : World) : Crew α × World :=
  match _hp : c.pick w with
  | none => (c, w)
  | some (i, c', w') =>
    match _hi : c'.pieces[i]? with
    | some (.act f next) => runFrom ((c'.replace i (next w')).wake (f w')) (f w')
    | some (.wait _ _ next) => runFrom (c'.replace i next) w'
    | _ => (c', w')
termination_by c
decreasing_by
  · show Fewer (c'.pieces.set i (next w')) c.pieces
    rw [← pieces_pick _hp]
    exact fewer_set _hi (.act f next w')
  · show Fewer (c'.pieces.set i next) c.pieces
    rw [← pieces_pick _hp]
    exact fewer_set _hi (.wait _ _ next)

/-- Starts pieces in order and runs them together; the value of each that came to its end. -/
def run (pieces : List (Work α)) (w : World) : List (Option α) × World :=
  let (c, w) := runFrom ⟨pieces, List.range pieces.length⟩ (w.passTo w.now)
  (c.pieces.map Work.value?, w)

end Crew

end CallChain
