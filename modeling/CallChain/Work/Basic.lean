import CallChain.Work.World

/-!
# Work that may wait

`Work α` runs in steps over the shared world and may wait in between: it is done, or acts on the world
at once and goes on, or waits for a guard.  A waiting piece of work can be dropped instead of resumed;
what has to be put in order then stands beside the wait.

Two races are built on this.  `unlessBefore` gives work up as soon as a guard holds, and asks the guard
first; `within` gives it up at a time, and asks the work first.  A race takes its place in the line of
those who wait once, when it starts; the place decides who goes on first when several can at once.
`guarded` puts something in order whichever way the work ends.
-/

set_option autoImplicit false

namespace CallChain

/-- What work can wait for. -/
inductive Guard where
  | reached (t : Instant)
  | cancelled (t : Token)
  | granted (ticket : Nat)
  | either (a b : Guard)
  /-- Something, since a place in the line of those who wait. -/
  | since (place : Nat) (g : Guard)
  deriving DecidableEq, Repr

namespace Guard

/-- Whether what is waited for is there.  A time is there when its tick is, which may be later. -/
def holds (w : World) : Guard → Bool
  | .reached t => t.tick ≤ w.ticks
  | .cancelled t => w.isCancelled t
  | .granted ticket => w.lock.isGranted ticket
  | .either a b => a.holds w || b.holds w
  | .since _ g => g.holds w

/-- The foremost place of what is there: a place in line, or the ticket of a granted lock. -/
def place? (w : World) : Guard → Option Nat
  | .granted ticket => if w.lock.isGranted ticket then some ticket else none
  | .since place g => if g.holds w then some place else none
  | .either a b =>
    match a.place? w, b.place? w with
    | some m, some n => some (min m n)
    | some m, none => some m
    | none, n => n
  | g => if g.holds w then some 0 else none

/-- The earliest tick waited for, if any. -/
def earliest? : Guard → Option Tick
  | .reached t => some t.tick
  | .cancelled _ => none
  | .granted _ => none
  | .either a b =>
    match a.earliest?, b.earliest? with
    | some s, some t => some (min s t)
    | some s, none => some s
    | none, t => t
  | .since _ g => g.earliest?

end Guard

/-- Work that ends with a value. -/
inductive Work (α : Type) where
  /-- The work is done. -/
  | done (a : α)
  /-- Acts on the world at once, and goes on with what it saw before. -/
  | act (f : World → World) (next : World → Work α)
  /-- Waits for a guard.  `drop` is what the world becomes if the work is given up here. -/
  | wait (g : Guard) (drop : World → World) (next : Work α)

namespace Work

variable {α β γ : Type}

/-- Work that goes on with other work. -/
def bind : Work α → (α → Work β) → Work β
  | .done a, k => k a
  | .act f next, k => .act f fun w => (next w).bind k
  | .wait g d next, k => .wait g d (next.bind k)

instance : Monad Work where
  pure := .done
  bind := bind

theorem bind_done (p : Work α) : p.bind .done = p := by
  induction p with
  | done a => rfl
  | act f next ih => simp only [bind]; congr 1; funext w; exact ih w
  | wait g d next ih => simp only [bind, ih]

theorem bind_bind (p : Work α) (k : α → Work β) (l : β → Work γ) :
    (p.bind k).bind l = p.bind fun a => (k a).bind l := by
  induction p with
  | done a => rfl
  | act f next ih => simp only [bind]; congr 1; funext w; exact ih w
  | wait g d next ih => simp only [bind, ih]

instance : LawfulMonad Work := LawfulMonad.mk' Work bind_done (fun _ _ => rfl) bind_bind

def look : Work World := .act id .done

def modify (f : World → World) : Work Unit := .act f fun _ => .done ()

/-- Changes the world and answers something about it. -/
def modifyGet (f : World → α × World) : Work α := .act (fun w => (f w).2) fun w => .done (f w).1

def record (e : Event) : Work Unit := modify (World.record e)

/-- Waits until a guard holds, nothing to put in order if given up. -/
def await (g : Guard) : Work Unit := .wait g id (.done ())

def sleep (d : Duration) : Work Unit :=
  .act World.takePlace fun w =>
    .wait (.since w.nextPlace (.reached (w.now + d.nanos))) id (.done ())

/-- Puts something in order when the work ends, and also when it is given up while it waits. -/
def guarded (release : World → World) : Work α → Work α
  | .done a => .act release fun _ => .done a
  | .act f next => .act f fun w => (next w).guarded release
  | .wait g d next => .wait g (fun w => release (d w)) (next.guarded release)

/-- Gives the work up where it waits as soon as a guard holds; the guard is asked first. -/
def interruptedBy (stop : Guard) : Work α → Work (Option α)
  | .done a => .done (some a)
  | .act f next => .act f fun w => (next w).interruptedBy stop
  | .wait g d next =>
    .act id fun w =>
      if g.holds w then next.interruptedBy stop
      else .wait (.either stop g) d <| .act id fun w =>
        if stop.holds w then .act d fun _ => .done none else next.interruptedBy stop

/-- Runs the work unless a guard holds before it is done; nothing is started when the guard holds at
once. -/
def unlessBefore (stop : Guard) (p : Work α) : Work (Option α) :=
  .act World.takePlace fun w =>
    if stop.holds w then .done none else p.interruptedBy (.since w.nextPlace stop)

/-- Gives the work up where it waits when a limit is there; work that can go on by then does. -/
def limitedTo (limit : Guard) : Work α → Work (Option α)
  | .done a => .done (some a)
  | .act f next => .act f fun w => (next w).limitedTo limit
  | .wait g d next =>
    .act id fun w =>
      if g.holds w then next.limitedTo limit
      else .wait (.either limit g) d <| .act id fun w =>
        if g.holds w then next.limitedTo limit else .act d fun _ => .done none

/-- Runs the work for a length of time at most. -/
def within (d : Duration) (p : Work α) : Work (Option α) :=
  .act World.takePlace fun w => p.limitedTo (.since w.nextPlace (.reached (w.now + d.nanos)))

/-- Takes the lock, runs the work and gives the lock back, however the work ends. -/
def holding (writing : Bool) (p : Work α) : Work α :=
  .act (fun w => { w with lock := w.lock.request writing }) fun w =>
    let ticket := w.lock.nextTicket
    let release (w : World) : World := { w with lock := w.lock.giveBack ticket }
    .wait (.granted ticket) release (p.guarded release)

end Work

end CallChain
