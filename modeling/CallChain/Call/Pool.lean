import CallChain.Call.Context

/-!
# Contexts derived from one another

A pool holds the tokens and the contexts of a program, each in the order in which they were made, and
the world they live in.  A step makes a token or a context, cancels a context or lets time pass.  Tokens
and contexts go by their numbers, and a step that names one that is not there leaves the pool as it is,
as does one that panics.
-/

set_option autoImplicit false

namespace CallChain

/-- What a derived context has that the one it comes from has not. -/
inductive Setting where
  | timeout (d : Duration)
  | deadline (t : Instant)
  | requestId (id : String)
  | field (key value : String)

/-- The context derived from another one with a setting, or a panic. -/
def CallContext.derive (c : CallContext) (w : World) : Setting → Except Panic CallContext
  | .timeout d => c.withTimeout w d
  | .deadline t => .ok (c.withDeadline t)
  | .requestId id => .ok (c.withRequestId id)
  | .field key value => .ok (c.withField key value)

/-- The tokens and contexts of a program. -/
structure ContextPool where
  tokens : List Token
  members : List CallContext
  world : World

inductive PoolStep where
  /-- A context on a token of its own. -/
  | new
  /-- A token, made from another one or from none. -/
  | makeToken (parent : Option Nat)
  /-- A context on a token that is there. -/
  | onToken (token : Nat)
  | derive (source : Nat) (s : Setting)
  | cancel (member : Nat)
  | advance (d : Duration)

namespace ContextPool

def empty : ContextPool := ⟨[], [], .initial⟩

def makeToken (p : ContextPool) (parent : Option Nat) : ContextPool :=
  let (t, w) := p.world.newToken (parent.bind fun n => p.tokens[n]?)
  ⟨p.tokens ++ [t], p.members, w⟩

def add (p : ContextPool) (c : CallContext) : ContextPool := { p with members := p.members ++ [c] }

def onToken (p : ContextPool) (n : Nat) : ContextPool :=
  match p.tokens[n]? with
  | some t => p.add (.ofToken t)
  | none => p

def derive (p : ContextPool) (i : Nat) (s : Setting) : ContextPool :=
  match p.members[i]? with
  | some c =>
    match c.derive p.world s with
    | .ok c' => p.add c'
    | .error _ => p
  | none => p

def cancel (p : ContextPool) (i : Nat) : ContextPool :=
  match p.members[i]? with
  | some c => { p with world := p.world.cancel c.token }
  | none => p

def advance (p : ContextPool) (d : Duration) : ContextPool :=
  { p with world := p.world.passTo (p.world.now + d.nanos) }

def perform (p : ContextPool) : PoolStep → ContextPool
  | .new => (p.makeToken none).onToken p.tokens.length
  | .makeToken parent => p.makeToken parent
  | .onToken n => p.onToken n
  | .derive i s => p.derive i s
  | .cancel i => p.cancel i
  | .advance d => p.advance d

/-- The pool after steps, one after the other. -/
def performAll (p : ContextPool) (steps : List PoolStep) : ContextPool := steps.foldl perform p

end ContextPool

end CallChain
