import CallChain.Client.Builder
import CallChain.Work.Run

/-!
# Clients that share a catalog

A session is a catalog of stages with the clients that were built from it and the world their calls run in.
Stages are registered, clients built and calls made in any order.
-/

set_option autoImplicit false

namespace CallChain

/-- A call as its caller makes it. -/
structure CallRequest (ρ : Type) where
  context : CallContext
  method : String
  target : String
  body : RequestBody
  reply : Option ρ
  options : List CallOption

/-- The work of a call that a client makes with a catalog. -/
def Client.make {ρ : Type} [Reply ρ] (c : Client) (catalog : Catalog) (q : CallRequest ρ) :
    Work (Except Panic CallResult × Option ρ) :=
  c.invoke catalog q.context q.method q.target q.body q.reply q.options

/-- Something done in a session; clients go by their numbers. -/
inductive SessionStep where
  | register (name : String) (maker : StageMaker)
  | registerStage (name : String) (stage : Stage)
  | build (b : ClientBuilder) (codes : CodeRegistry) (connector : Connector) (site : CallSite)
  | call (client : Nat) (ρ : Type) [Reply ρ] (q : CallRequest ρ)

/-- A catalog with the clients that were built from it. -/
structure Session where
  catalog : Catalog
  clients : List Client
  world : World

namespace Session

/-- The session with a catalog that a registration has left, if it was not refused. -/
def update (s : Session) : Except ConfigError Catalog → Session
  | .ok catalog => { s with catalog := catalog }
  | .error _ => s

/-- Builds a client, unless its builder is refused. -/
def build (s : Session) (b : ClientBuilder) (codes : CodeRegistry) (connector : Connector)
    (site : CallSite) : Session :=
  let (built, records) := b.build s.catalog codes connector site
  { s with
    clients := s.clients ++ built.toOption.toList
    world := records.foldl (fun w r => w.record (.logged r)) s.world }

/-- Makes a call to its end; a call that has none leaves nothing behind. -/
def call {ρ : Type} [Reply ρ] (s : Session) (n : Nat) (q : CallRequest ρ) : Session :=
  match (s.clients[n]?).bind fun c => (c.make s.catalog q).run s.world with
  | some (_, w) => { s with world := w }
  | none => s

def perform (s : Session) : SessionStep → Session
  | .register name maker => s.update (s.catalog.register name maker)
  | .registerStage name stage => s.update (s.catalog.registerStage name stage)
  | .build b codes connector site => s.build b codes connector site
  | @SessionStep.call n _ _ q => s.call n q

/-- The session after steps, one after the other. -/
def performAll (s : Session) (steps : List SessionStep) : Session := steps.foldl perform s

end Session

end CallChain
