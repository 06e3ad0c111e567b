import CallChain.Work.Attempt

/-!
# Filling a registry

A service registers its codes in one of three ways: a single code, a single code where a conflict is a
mistake of the program and panics, or several codes up to the first conflict.  A registration leaves a
registry in any case and says how it ended.
-/

set_option autoImplicit false

namespace CallChain

/-- One way to register codes. -/
inductive Registration where
  | register (c : FaultCode)
  | mustRegister (c : FaultCode)
  | registerAll (cs : List FaultCode)

/-- The codes that are offered, in order. -/
def Registration.offered : Registration → List FaultCode
  | .register c => [c]
  | .mustRegister c => [c]
  | .registerAll cs => cs

namespace CodeRegistry

/-- Registers a code; a conflict panics with its message. -/
def mustRegister (r : CodeRegistry) (c : FaultCode) : Except Panic CodeRegistry :=
  (r.register c).mapError fun e => ⟨some e.message⟩

/-- The registry after a registration, and how the registration ended. -/
def perform (r : CodeRegistry) :
    Registration → CodeRegistry × Except Panic (Except RegistryError Unit)
  | .register c =>
    match r.register c with
    | .ok r' => (r', .ok (.ok ()))
    | .error e => (r, .ok (.error e))
  | .mustRegister c =>
    match r.mustRegister c with
    | .ok r' => (r', .ok (.ok ()))
    | .error p => (r, .error p)
  | .registerAll cs =>
    match r.registerAll cs with
    | (r', none) => (r', .ok (.ok ()))
    | (r', some e) => (r', .ok (.error e))

/-- The registry after registrations, one after the other. -/
def performAll (r : CodeRegistry) (ops : List Registration) : CodeRegistry :=
  ops.foldl (fun r o => (r.perform o).1) r

end CodeRegistry

end CallChain
