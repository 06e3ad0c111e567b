import CallChain.Fault.History
import CallChain.Work.Basic

/-!
# Work that may panic

A panic ends work at once and is no error: it passes every stage until one of them catches it.  The
races of `Work` carry over: work that is given up has no panic either.
-/

set_option autoImplicit false

namespace CallChain

/-- The end of work by panic: the text of its payload, if the payload is a text. -/
structure Panic where
  payload : Option String
  deriving DecidableEq, Repr

/-- Something a caller supplies that runs at once, may change the world, and may fail or panic. -/
abbrev Action (α : Type) := World → Except Panic (Except Fault α) × World

/-- Work that may end in a panic. -/
abbrev Attempt (α : Type) := ExceptT Panic Work α

namespace Attempt

variable {α : Type}

def ofAction (a : Action α) : Attempt (Except Fault α) := ExceptT.mk (Work.modifyGet a)

/-- The outcome of work that may have been given up. -/
def outcome : Option (Except Panic α) → Except Panic (Option α)
  | none => .ok none
  | some (.ok a) => .ok (some a)
  | some (.error p) => .error p

/-- Runs work unless a guard holds before it is done. -/
def unlessBefore (stop : Guard) (t : Attempt α) : Attempt (Option α) :=
  ExceptT.mk do return outcome (← Work.unlessBefore stop t.run)

/-- Runs work for a length of time at most, if there is a limit. -/
def within (limit : Option Duration) (t : Attempt α) : Attempt (Option α) :=
  match limit with
  | some d => ExceptT.mk do return outcome (← Work.within d t.run)
  | none => do return some (← t)

/-- Takes the lock, runs the work and gives the lock back, however the work ends. -/
def holding (writing : Bool) (t : Attempt α) : Attempt α := ExceptT.mk (Work.holding writing t.run)

end Attempt

def Work.log (span : Option LogFields) (level : Level) (message : String) (fields : LogFields) :
    Work Unit :=
  Work.record (.logged ⟨level, message, fields, span⟩)

end CallChain
