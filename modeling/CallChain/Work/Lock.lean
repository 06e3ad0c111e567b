/-!
# A fair lock for many readers or one writer

Requests are served in the order they were made: a request is granted when it is first in the queue and
no holder stands against it, so a reader that comes after a waiting writer waits too.  A holder or a
waiting request is known by its ticket, and giving the ticket back frees its place in either case.
-/

set_option autoImplicit false

namespace CallChain

/-- Who holds a lock and who waits for it. -/
structure Lock where
  readers : List Nat
  writer : Option Nat
  /-- The waiting tickets, first come first, and whether each wants to write. -/
  queue : List (Nat × Bool)
  nextTicket : Nat
  deriving DecidableEq, Repr

namespace Lock

/-- The lock that nobody holds or wants. -/
def free : Lock := ⟨[], none, [], 0⟩

/-- Grants waiting requests from the front of a queue as long as nobody stands against them. -/
def serve (readers : List Nat) (writer : Option Nat) :
    List (Nat × Bool) → List Nat × Option Nat × List (Nat × Bool)
  | [] => (readers, writer, [])
  | (ticket, writing) :: rest =>
    if writing then
      if readers = [] ∧ writer = none then ([], some ticket, rest)
      else (readers, writer, (ticket, writing) :: rest)
    else if writer = none then serve (readers ++ [ticket]) none rest
    else (readers, writer, (ticket, writing) :: rest)

/-- The lock after every request that can be granted is granted. -/
def settle (l : Lock) : Lock :=
  let (readers, writer, queue) := serve l.readers l.writer l.queue
  { l with readers, writer, queue }

/-- A new request, granted at once if possible. -/
def request (writing : Bool) (l : Lock) : Lock :=
  settle { l with queue := l.queue ++ [(l.nextTicket, writing)], nextTicket := l.nextTicket + 1 }

def isGranted (l : Lock) (ticket : Nat) : Bool :=
  l.readers.contains ticket || l.writer == some ticket

/-- Gives a ticket back, whether it holds the lock or waits for it. -/
def giveBack (ticket : Nat) (l : Lock) : Lock :=
  settle
    { l with
      readers := l.readers.filter (· != ticket)
      writer := if l.writer = some ticket then none else l.writer
      queue := l.queue.filter fun q => q.1 != ticket }

end Lock

end CallChain
