import CallChain.Call.Body
import CallChain.Call.Context
import CallChain.Call.Options
import CallChain.Call.Reply
import CallChain.Transport.Connection

/-!
# Invocations

An invocation is everything one call carries through the chain.  Stages may change it on the way in and
find what deeper stages made of it on the way out, also after a panic.
-/

set_option autoImplicit false

namespace CallChain

/-- What a client fixes for all of its calls. -/
structure ClientSettings extends Dialer where
  /-- The time a call may take unless it says otherwise. -/
  timeout : Option Duration
  /-- How the connection is secured, in one word. -/
  mode : TlsMode

/-- What becomes of the response body: nothing, or a reply of the caller, which a stage may put aside so
that no deeper stage touches it. -/
inductive ReplySlot (ρ : Type) where
  /-- The caller gave no reply. -/
  | none
  /-- The caller's reply, open to every stage. -/
  | live (reply : ρ)
  /-- The caller's reply, put aside. -/
  | aside (reply : ρ)

namespace ReplySlot

variable {ρ : Type}

def value? : ReplySlot ρ → Option ρ
  | .none => Option.none
  | .live r => some r
  | .aside r => some r

def seen? : ReplySlot ρ → Option ρ
  | .live r => some r
  | _ => Option.none

/-- The slot with the reply put aside. -/
def putAside : ReplySlot ρ → ReplySlot ρ
  | .live r => .aside r
  | s => s

/-- The slot of a reply that may be missing. -/
def ofOption : Option ρ → ReplySlot ρ
  | some r => .live r
  | Option.none => .none

end ReplySlot

/-- Everything one call carries through the chain. -/
structure Invocation (ρ : Type) where
  method : String
  target : String
  body : RequestBody
  reply : ReplySlot ρ
  /-- The options of the client followed by those of the call; stages may add more. -/
  options : List CallOption
  client : ClientSettings

namespace Invocation

variable {ρ : Type}

/-- What the options so far make of the call. -/
def info (i : Invocation ρ) : CallInfo := .ofOptions i.options

def codes (i : Invocation ρ) : CodeRegistry := i.client.codes

def push (i : Invocation ρ) (o : CallOption) : Invocation ρ := { i with options := i.options ++ [o] }

end Invocation

/-- Work on an invocation that may panic.  What was done to the invocation survives the panic. -/
abbrev Call (ρ : Type) (α : Type) := ExceptT Panic (StateT (Invocation ρ) Work) α

namespace Call

variable {ρ α : Type}

/-- Work that does not touch the invocation. -/
def ofAttempt (t : Attempt α) : Call ρ α := ExceptT.mk (StateT.lift t.run)

def raise (p : Panic) : Call ρ α := throw p

/-- The outcome of work with its panic caught. -/
def caught (c : Call ρ α) : Call ρ (Except Panic α) := ExceptT.lift c.run

/-- Writes a log record of the call. -/
def log (ctx : CallContext) (level : Level) (message : String) (fields : LogFields) :
    Call ρ Unit :=
  ofAttempt (Work.log ctx.span level message fields)

/-- What the options so far make of the call. -/
def info : Call ρ CallInfo := return (← get).info

end Call

end CallChain
