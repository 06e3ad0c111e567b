import CallChain.Call.Skipper
import CallChain.Chain.Invocation

/-!
# Stages and the chain

A stage wraps the rest of the chain: it may act before and after it, run it several times or not at
all, and change the invocation.  The chain runs its stages outermost first.  A stage is asked whether it
stands aside when the chain reaches it, on the method and target the invocation has by then.
-/

set_option autoImplicit false

namespace CallChain

/-- The rest of the chain as a stage sees it. -/
structure Next (ρ : Type) where
  /-- The names of the stages left, those that will stand aside included. -/
  remaining : List String
  /-- Runs the rest. -/
  run : CallContext → Call ρ CallResult

namespace Next

variable {ρ : Type}

/-- The rest of the chain shown for diagnosis. -/
def describe (n : Next ρ) : String :=
  Text.showRecord "Next" [("remaining", Text.showList (n.remaining.map Text.quote))]

end Next

/-- One stage of the chain, for calls with any type of reply. -/
structure Stage where
  /-- What the stage calls itself. -/
  name : String
  /-- Whether the stage stands aside for a method and a target. -/
  skips : String → String → Bool
  /-- What the stage makes of the rest of the chain. -/
  intercept : {ρ : Type} → [Reply ρ] → CallContext → Next ρ → Call ρ CallResult

namespace Stage

/-- A stage that stands aside when any of several skippers matches. -/
def skippedBy (skippers : List Skipper) (name : String)
    (intercept : {ρ : Type} → [Reply ρ] → CallContext → Next ρ → Call ρ CallResult) : Stage :=
  ⟨name, Skipper.any skippers, intercept⟩

end Stage

/-- Stages, outermost first. -/
abbrev Chain := List Stage

namespace Chain

variable {ρ : Type} [Reply ρ]

/-- Runs the chain from a position on: the next stage that does not stand aside, or what is at the
center. -/
def runFrom (chain : Chain) (center : CallContext → Call ρ CallResult) (position : Nat)
    (ctx : CallContext) : Call ρ CallResult :=
  match _h : chain[position]? with
  | none => center ctx
  | some stage => do
    let i ← get
    if stage.skips i.method i.target then chain.runFrom center (position + 1) ctx
    else
      stage.intercept ctx
        ⟨(chain.drop (position + 1)).map Stage.name, chain.runFrom center (position + 1)⟩
termination_by chain.length - position
decreasing_by
  all_goals
    have := (List.getElem?_eq_some_iff.mp _h).1
    omega

def run (chain : Chain) (center : CallContext → Call ρ CallResult) (ctx : CallContext) :
    Call ρ CallResult :=
  chain.runFrom center 0 ctx

/-! ## Running a chain from the outside in

The chain is walked by position.  Seen from a stage, though, the rest of the chain is a chain of its own:
`run_cons` peels the outermost stage off and hands it the run of the others, and `run_nil` is what is at the
center.  Inductions over a chain use these two and never a position.
-/

/-- One step of the walk: the center, or the stage at the position. -/
theorem runFrom_eq (chain : Chain) (center : CallContext → Call ρ CallResult) (p : Nat) :
    runFrom chain center p = fun ctx =>
      match chain[p]? with
      | none => center ctx
      | some stage => (do
        let i ← get
        if stage.skips i.method i.target then runFrom chain center (p + 1) ctx
        else
          stage.intercept ctx
            ⟨(chain.drop (p + 1)).map Stage.name, runFrom chain center (p + 1)⟩) := by
  funext ctx
  rw [runFrom]
  split <;> rename_i h <;> simp only [h]

/-- Behind the first stage, a chain runs like the chain without it. -/
theorem runFrom_cons (s : Stage) (rest : Chain) (center : CallContext → Call ρ CallResult)
    (p : Nat) : runFrom (s :: rest) center (p + 1) = runFrom rest center p := by
  induction hn : rest.length - p using Nat.strongRecOn generalizing p with
  | _ n ih =>
    rw [runFrom_eq (s :: rest), runFrom_eq rest]
    simp only [List.getElem?_cons_succ, List.drop_succ_cons]
    funext ctx
    cases hstage : rest[p]? with
    | none => rfl
    | some stage =>
      have hp : p < rest.length := (List.getElem?_eq_some_iff.mp hstage).1
      have hnext := ih (rest.length - (p + 1)) (by omega) (p + 1) rfl
      rw [hnext]

/-- Without stages only the center runs. -/
@[simp] theorem run_nil (center : CallContext → Call ρ CallResult) (ctx : CallContext) :
    run [] center ctx = center ctx := by
  rw [run, runFrom_eq]
  rfl

/-- The outermost stage gets the run of the others, or stands aside for it. -/
theorem run_cons (s : Stage) (rest : Chain) (center : CallContext → Call ρ CallResult)
    (ctx : CallContext) :
    run (s :: rest) center ctx = (do
      let i ← get
      if s.skips i.method i.target then run rest center ctx
      else s.intercept ctx ⟨rest.map Stage.name, run rest center⟩) := by
  have hrest : runFrom (s :: rest) center 1 = run rest center := runFrom_cons s rest center 0
  rw [run, runFrom_eq]
  simp only [List.getElem?_cons_zero, Nat.zero_add, List.drop_succ_cons, List.drop_zero, hrest]

end Chain

end CallChain
