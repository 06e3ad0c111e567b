import CallChain.Proofs.Connection.Position
import CallChain.Proofs.Work.Lock

/-!
# What every schedule keeps

Every task that is at an operation stands in a position, and a position comes with a claim on the lock and
with what it expects of the connection and of the history of the task.  A step of one task keeps the claims
of all others (`Effect`), because their tickets are not its own, and it changes the connection only while
it holds the lock for writing, when no other position expects anything of it.  So each step only has to be
right for the task that takes it.
-/

set_option autoImplicit false

namespace CallChain.Dialer

/-- Whether a lock is as a claim says. -/
def Claim.Met (l : Lock) (ticket : Option Nat) : Claim → Prop
  | .none => ∀ n, ticket = some n → n ∉ l.tickets
  | .waits n writing => ticket = some n ∧ (n, writing) ∈ l.line
  | .holds n false => ticket = some n ∧ n ∈ l.readers
  | .holds n true => ticket = some n ∧ l.writer = some n

/-- What a task is told is what its own dial came to, or a connection that it did not have to dial. -/
inductive Accounts (d : Dialer) : DialState → GetResult → Prop where
  | found (c : ConnectionId) : Accounts d .none (.ok (.ok c))
  | dialed (r : DialResult) : Accounts d (.ended r) (d.outcomeOf r)

/-- The connection that a task has come to. -/
def kept? : GetResult → Option ConnectionId
  | .ok (.ok c) => some c
  | _ => none

namespace Position

/-- What a position expects of the history of its task and of the connection. -/
def Expects (d : Dialer) (τ : Task) (connection : Option ConnectionId) : Position → Prop
  | .leaveRead _ _ found => τ.dial = .none ∧ connection = found
  | .startDial _ _ => τ.dial = .none ∧ connection = none
  | .dialing _ _ p => τ.dial = .inFlight p ∧ connection = none ∧ p.Spares
  | .leaveWrite _ r => Accounts d τ.dial r ∧ connection = kept? r
  | .finished r => Accounts d τ.dial r ∧ ∀ c, r = .ok (.ok c) → c ∈ τ.saw
  | _ => τ.dial = .none

/-- Whether a task may stand in a position. -/
structure Fits (d : Dialer) (p : Position) (τ : Task) (w : World) : Prop where
  claim : p.claim.Met w.lock τ.ticket
  expects : p.Expects d τ w.connection

end Position

/-- Whether a task is as it can be. -/
inductive Task.InOrder (d : Dialer) (τ : Task) (w : World) : Prop where
  | idle (hrest : τ.rest = none) (hclaim : Claim.none.Met w.lock τ.ticket) (hdial : ¬ τ.IsDialing)
  | busy (op : Operation) (p : Position) (hrest : τ.rest = some (op, p.work d))
      (hop : p.isClose = op.isClose) (hfits : p.Fits d τ w)

/-- What a step of a task with a ticket does to what the tasks share. -/
structure Effect (ticket : Option Nat) (w w' : World) : Prop where
  /-- The lock stays in order. -/
  sound : w'.lock.Sound
  /-- Tickets are not drawn twice. -/
  nextTicket : w.lock.nextTicket ≤ w'.lock.nextTicket
  /-- Only the ticket drawn comes into the line. -/
  drawn : ∀ m ∈ w'.lock.tickets, m ∈ w.lock.tickets ∨
    (m = w.lock.nextTicket ∧ w'.lock.nextTicket ≠ w.lock.nextTicket)
  /-- Nobody draws a ticket who has one in the line. -/
  fresh : w'.lock.nextTicket ≠ w.lock.nextTicket → Claim.none.Met w.lock ticket
  /-- Other tickets are no worse off. -/
  keeps : ∀ m, m < w.lock.nextTicket → ticket ≠ some m → w.lock.Keeps w'.lock m
  /-- Only the writer changes the connection. -/
  connection : w'.connection = w.connection ∨ ∃ n, ticket = some n ∧ w.lock.writer = some n

section Effect

variable {ticket : Option Nat} {w w' : World}

theorem effect_spares (hsound : w.lock.Sound) (hlock : w'.lock = w.lock)
    (hconnection : w'.connection = w.connection) : Effect ticket w w' := by
  refine ⟨?_, ?_, ?_, ?_, ?_, .inl hconnection⟩
  · rw [hlock]
    exact hsound
  · exact Nat.le_of_eq (congrArg Lock.nextTicket hlock).symm
  · rw [hlock]
    exact fun m hm => .inl hm
  · rw [hlock]
    exact fun h => absurd rfl h
  · rw [hlock]
    exact fun m _ _ => .refl _ m

theorem effect_demand (hsound : w.lock.Sound) (hfresh : Claim.none.Met w.lock ticket)
    (writing : Bool) : Effect ticket w (demand writing w) := by
  refine ⟨Lock.sound_request hsound writing, Nat.le_succ _, fun m hm => ?_, fun _ => hfresh,
    fun m hm _ => Lock.keeps_request hsound writing hm, .inl rfl⟩
  have hmem : m ∈ (w.lock.request writing).tickets := hm
  rw [Lock.tickets_request hsound] at hmem
  rcases List.mem_append.mp hmem with hmem | hmem
  · exact .inl hmem
  · exact .inr ⟨List.mem_singleton.mp hmem, Nat.succ_ne_self _⟩

theorem effect_release {n : Nat} (hsound : w.lock.Sound) (hlock : w'.lock = w.lock.giveBack n)
    (hconnection : w'.connection = w.connection) : Effect (some n) w w' := by
  have hnext : w'.lock.nextTicket = w.lock.nextTicket := by
    rw [hlock, Lock.nextTicket_giveBack]
  refine ⟨?_, ?_, ?_, ?_, ?_, .inl hconnection⟩
  · rw [hlock]
    exact Lock.sound_giveBack hsound n
  · exact Nat.le_of_eq hnext.symm
  · rw [hlock]
    exact fun m hm => .inl ((Lock.mem_tickets_giveBack hsound).mp hm).1
  · exact fun h => absurd hnext h
  · rw [hlock]
    exact fun m _ hm => Lock.keeps_giveBack hsound fun heq => hm (congrArg some heq.symm)

theorem effect_write {n : Nat} (hsound : w.lock.Sound) (hwriter : w.lock.writer = some n)
    (c : Option ConnectionId) : Effect (some n) w { w with connection := c } where
  sound := hsound
  nextTicket := Nat.le_refl _
  drawn _ hm := .inl hm
  fresh h := absurd rfl h
  keeps m _ _ := .refl _ m
  connection := .inr ⟨n, rfl, hwriter⟩

end Effect

section frame

variable {d : Dialer} {ticket : Option Nat} {w w' : World} {τ : Task} {p : Position}

/-- A claim is kept by the steps of others. -/
theorem Claim.Met.frame {c : Claim} (h : c.Met w.lock τ.ticket)
    (hkeeps : ∀ m, τ.ticket = some m → w.lock.Keeps w'.lock m) : c.Met w'.lock τ.ticket := by
  cases c with
  | none => exact fun n hn => (hkeeps n hn).out (h n hn)
  | waits n writing => exact ⟨h.1, (hkeeps n h.1).waits writing h.2⟩
  | holds n writing =>
    cases writing with
    | false => exact ⟨h.1, (hkeeps n h.1).reads h.2⟩
    | true => exact ⟨h.1, (hkeeps n h.1).writes h.2⟩

/-- Only a position that holds the lock expects anything of the connection. -/
theorem Position.Expects.frame {connection connection' : Option ConnectionId}
    (h : p.Expects d τ connection)
    (hholds : ∀ n writing, p.claim = .holds n writing → connection' = connection) :
    p.Expects d τ connection' := by
  cases p with
  | leaveRead span n found => exact ⟨h.1, (hholds n false rfl).trans h.2⟩
  | startDial span n => exact ⟨h.1, (hholds n true rfl).trans h.2⟩
  | dialing span n q => exact ⟨h.1, (hholds n true rfl).trans h.2.1, h.2.2⟩
  | leaveWrite n r => exact ⟨h.1, (hholds n true rfl).trans h.2⟩
  | askRead span | awaitRead span n | read span n | askWrite span | awaitWrite span n | look span n
  | finished r | askClose | awaitClose n | clear n | leaveClose n | closed => exact h

/-- While one ticket writes, no other holds the lock. -/
theorem not_holds_of_writer {n m : Nat} {writing : Bool} (hsound : w.lock.Sound)
    (hwriter : w.lock.writer = some m) (hne : n ≠ m)
    (h : (Claim.holds n writing).Met w.lock τ.ticket) : False := by
  cases writing with
  | false =>
    rcases hsound.exclusive with hnone | hreaders
    · rw [hnone] at hwriter
      cases hwriter
    · have hmem := h.2
      rw [hreaders] at hmem
      cases hmem
  | true =>
    have hn := h.2
    rw [hwriter] at hn
    exact hne (Option.some.inj hn).symm

/-- A task stays in order while another one takes a step. -/
theorem Task.InOrder.frame (h : τ.InOrder d w) (hsound : w.lock.Sound) (heffect : Effect ticket w w')
    (hdrawn : ∀ n, τ.ticket = some n → n < w.lock.nextTicket)
    (hapart : ∀ n, τ.ticket = some n → ticket ≠ some n) : τ.InOrder d w' := by
  have hkeeps (m : Nat) (hm : τ.ticket = some m) : w.lock.Keeps w'.lock m :=
    heffect.keeps m (hdrawn m hm) (hapart m hm)
  cases h with
  | idle hrest hclaim hdial => exact .idle hrest (hclaim.frame hkeeps) hdial
  | busy op p hrest hop hfits =>
    refine .busy op p hrest hop ⟨hfits.claim.frame hkeeps, hfits.expects.frame ?_⟩
    intro n writing hclaim
    have hmet := hfits.claim
    rw [hclaim] at hmet
    rcases heffect.connection with heq | ⟨m, hm, hwriter⟩
    · exact heq
    · have hticket : τ.ticket = some n := by
        cases writing <;> exact hmet.1
      have hne : n ≠ m := by
        rintro rfl
        exact hapart n hticket hm
      exact (not_holds_of_writer hsound hwriter hne hmet).elim

end frame

end CallChain.Dialer
