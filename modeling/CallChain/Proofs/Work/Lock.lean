import CallChain.Work.Lock
import Mathlib.Data.List.Nodup

/-!
# The lock as a line of tickets

The tickets that hold a lock and those that wait for it stand in one line, in the order in which they
were drawn.  Serving the queue moves the mark between holders and waiters and never the line itself
(`line_settle`), a request puts one ticket at the end (`line_request`), and a ticket that is given back
leaves the line (`line_giveBack`).  `Sound` says that no two tickets in the line are the same, that a
writer is alone, and that somebody holds the lock while anybody waits; a ticket that holds the lock keeps
it until it is given back.
-/

set_option autoImplicit false

namespace CallChain.Lock

variable {l : Lock} {n m : Nat} {writing : Bool}

/-- The tickets that hold the lock and those that wait for it, and whether each wants to write. -/
def line (l : Lock) : List (Nat × Bool) :=
  l.readers.map (·, false) ++ l.writer.toList.map (·, true) ++ l.queue

/-- The tickets in the line. -/
def tickets (l : Lock) : List Nat := l.line.map Prod.fst

/-- A lock in order. -/
structure Sound (l : Lock) : Prop where
  /-- No ticket is in the line twice. -/
  nodup : l.tickets.Nodup
  /-- The tickets in the line were drawn. -/
  drawn : ∀ n ∈ l.tickets, n < l.nextTicket
  /-- Nobody reads while somebody writes. -/
  exclusive : l.writer = none ∨ l.readers = []
  /-- Nobody waits for a lock that is free. -/
  served : l.queue = [] ∨ l.readers ≠ [] ∨ l.writer ≠ none

theorem sound_free : free.Sound where
  nodup := List.nodup_nil
  drawn := by
    intro n hn
    cases hn
  exclusive := .inl rfl
  served := .inl rfl

/-- What serving does: the line stays, a writer stays alone, holders stay, and nobody waits in vain. -/
theorem serve_spec (readers : List Nat) (writer : Option Nat) (queue : List (Nat × Bool))
    (hexclusive : writer = none ∨ readers = []) :
    let (readers', writer', queue') := serve readers writer queue
    readers'.map (·, false) ++ writer'.toList.map (·, true) ++ queue' =
        readers.map (·, false) ++ writer.toList.map (·, true) ++ queue ∧
      (writer' = none ∨ readers' = []) ∧ (queue' = [] ∨ readers' ≠ [] ∨ writer' ≠ none) ∧
      (∀ n ∈ readers, n ∈ readers') ∧ ∀ n, writer = some n → writer' = some n := by
  induction queue generalizing readers with
  | nil => simp [serve, hexclusive]
  | cons q rest ih =>
    obtain ⟨ticket, writing⟩ := q
    unfold serve
    cases writing with
    | true =>
      by_cases hfree : readers = [] ∧ writer = none
      · obtain ⟨rfl, rfl⟩ := hfree
        simp
      · simp only [if_true, if_neg hfree]
        refine ⟨trivial, hexclusive, .inr ?_, fun _ h => h, fun _ h => h⟩
        by_cases hreaders : readers = []
        · exact .inr fun hwriter => hfree ⟨hreaders, hwriter⟩
        · exact .inl hreaders
    | false =>
      by_cases hwriter : writer = none
      · subst hwriter
        simp only [Bool.false_eq_true, if_false, if_true]
        obtain ⟨hline, hexcl, hserved, hreaders, hwriter⟩ := ih (readers ++ [ticket]) (.inl rfl)
        refine ⟨?_, hexcl, hserved, fun n hn => hreaders n (List.mem_append_left _ hn), hwriter⟩
        rw [hline]
        simp
      · simp only [Bool.false_eq_true, if_false, if_neg hwriter]
        exact ⟨trivial, hexclusive, .inr (.inr hwriter), fun _ h => h, fun _ h => h⟩

theorem line_settle (h : l.writer = none ∨ l.readers = []) : l.settle.line = l.line :=
  (serve_spec l.readers l.writer l.queue h).1

theorem sound_settle (hnodup : l.tickets.Nodup) (hdrawn : ∀ n ∈ l.tickets, n < l.nextTicket)
    (hexclusive : l.writer = none ∨ l.readers = []) : l.settle.Sound := by
  obtain ⟨hline, hexcl, hserved, -, -⟩ := serve_spec l.readers l.writer l.queue hexclusive
  have htickets : l.settle.tickets = l.tickets := congrArg (List.map Prod.fst) hline
  refine ⟨?_, ?_, hexcl, hserved⟩
  · rw [htickets]
    exact hnodup
  · rw [htickets]
    exact hdrawn

/-- A request stands at the end of the line. -/
theorem line_request (h : l.Sound) (writing : Bool) :
    (l.request writing).line = l.line ++ [(l.nextTicket, writing)] := by
  have hexclusive : { l with
      queue := l.queue ++ [(l.nextTicket, writing)]
      nextTicket := l.nextTicket + 1 : Lock }.settle.line = _ := line_settle h.exclusive
  refine hexclusive.trans ?_
  simp [line]

theorem tickets_request (h : l.Sound) (writing : Bool) :
    (l.request writing).tickets = l.tickets ++ [l.nextTicket] := by
  unfold tickets
  rw [line_request h]
  simp

theorem sound_request (h : l.Sound) (writing : Bool) : (l.request writing).Sound := by
  have htickets : tickets
      { l with queue := l.queue ++ [(l.nextTicket, writing)], nextTicket := l.nextTicket + 1 } =
        l.tickets ++ [l.nextTicket] := by
    simp [tickets, line]
  refine sound_settle ?_ ?_ h.exclusive
  · rw [htickets, List.nodup_append]
    refine ⟨h.nodup, by simp, ?_⟩
    intro n hn m hm
    have := h.drawn n hn
    simp only [List.mem_singleton] at hm
    omega
  · rw [htickets]
    intro n hn
    rcases List.mem_append.mp hn with hn | hn
    · exact Nat.lt_succ_of_lt (h.drawn n hn)
    · rw [List.mem_singleton.mp hn]
      exact Nat.lt_succ_self _

/-- What a ticket that is given back leaves before others are served. -/
theorem line_without (l : Lock) (n : Nat) :
    line { l with
      readers := l.readers.filter (· != n)
      writer := if l.writer = some n then none else l.writer
      queue := l.queue.filter fun q => q.1 != n } = l.line.filter fun q => q.1 != n := by
  unfold line
  simp only [List.filter_append, List.filter_map]
  congr 2
  cases hwriter : l.writer with
  | none => rfl
  | some m =>
    by_cases hm : m = n
    · simp [hm]
    · simp [hm]

theorem exclusive_without (h : l.Sound) (n : Nat) :
    (if l.writer = some n then none else l.writer) = none ∨ l.readers.filter (· != n) = [] := by
  rcases h.exclusive with hwriter | hreaders
  · rw [hwriter]
    exact .inl rfl
  · rw [hreaders]
    exact .inr rfl

/-- A ticket that is given back leaves the line. -/
theorem line_giveBack (h : l.Sound) (n : Nat) :
    (l.giveBack n).line = l.line.filter fun q => q.1 != n := by
  show (settle _).line = _
  rw [line_settle (exclusive_without h n), line_without]

theorem mem_tickets_giveBack (h : l.Sound) : m ∈ (l.giveBack n).tickets ↔ m ∈ l.tickets ∧ m ≠ n := by
  unfold tickets
  rw [line_giveBack h]
  simp

theorem nextTicket_giveBack (l : Lock) (n : Nat) : (l.giveBack n).nextTicket = l.nextTicket := rfl

theorem sound_giveBack (h : l.Sound) (n : Nat) : (l.giveBack n).Sound := by
  have hsub : ((l.line.filter fun q => q.1 != n).map Prod.fst).Sublist l.tickets :=
    List.filter_sublist.map _
  refine sound_settle ?_ ?_ (exclusive_without h n)
  · unfold tickets
    rw [line_without]
    exact h.nodup.sublist hsub
  · unfold tickets
    rw [line_without]
    exact fun m hm => h.drawn m (hsub.mem hm)

section holding

theorem mem_line_of_reader (h : n ∈ l.readers) : (n, false) ∈ l.line := by
  simp [line, h]

theorem mem_line_of_writer (h : l.writer = some n) : (n, true) ∈ l.line := by
  simp [line, h]

/-- A ticket in the line wants one thing only. -/
theorem eq_of_mem_line (h : l.Sound) {b b' : Bool} (hb : (n, b) ∈ l.line) (hb' : (n, b') ∈ l.line) :
    b = b' := by
  have hpair : (n, b) = (n, b') := List.inj_on_of_nodup_map h.nodup hb hb' rfl
  exact congrArg Prod.snd hpair

/-- A reader whose ticket is granted reads. -/
theorem reader_of_isGranted (h : l.Sound) (hn : (n, false) ∈ l.line) (hgranted : l.isGranted n = true) :
    n ∈ l.readers := by
  simp only [isGranted, Bool.or_eq_true, List.contains_iff_mem, beq_iff_eq] at hgranted
  rcases hgranted with hreader | hwriter
  · exact hreader
  · cases eq_of_mem_line h hn (mem_line_of_writer hwriter)

/-- A writer whose ticket is granted writes. -/
theorem writer_of_isGranted (h : l.Sound) (hn : (n, true) ∈ l.line) (hgranted : l.isGranted n = true) :
    l.writer = some n := by
  simp only [isGranted, Bool.or_eq_true, List.contains_iff_mem, beq_iff_eq] at hgranted
  rcases hgranted with hreader | hwriter
  · cases eq_of_mem_line h hn (mem_line_of_reader hreader)
  · exact hwriter

end holding

/-- A ticket is no worse off: it keeps its place in the line, or out of it, and what it holds. -/
structure Keeps (l l' : Lock) (n : Nat) : Prop where
  waits : ∀ writing, (n, writing) ∈ l.line → (n, writing) ∈ l'.line
  reads : n ∈ l.readers → n ∈ l'.readers
  writes : l.writer = some n → l'.writer = some n
  out : n ∉ l.tickets → n ∉ l'.tickets

theorem Keeps.refl (l : Lock) (n : Nat) : l.Keeps l n :=
  ⟨fun _ h => h, fun h => h, fun h => h, fun h => h⟩

theorem keeps_request (h : l.Sound) (writing : Bool) (hn : n < l.nextTicket) :
    l.Keeps (l.request writing) n := by
  obtain ⟨-, -, -, hreaders, hwriter⟩ :=
    serve_spec l.readers l.writer (l.queue ++ [(l.nextTicket, writing)]) h.exclusive
  refine ⟨fun b hb => ?_, hreaders n, hwriter n, fun hout => ?_⟩
  · rw [line_request h]
    exact List.mem_append_left _ hb
  · rw [tickets_request h]
    intro hmem
    rcases List.mem_append.mp hmem with hmem | hmem
    · exact hout hmem
    · rw [List.mem_singleton.mp hmem] at hn
      exact absurd hn (Nat.lt_irrefl _)

theorem keeps_giveBack (h : l.Sound) (hn : n ≠ m) : l.Keeps (l.giveBack m) n := by
  obtain ⟨-, -, -, hreaders, hwriter⟩ :=
    serve_spec (l.readers.filter (· != m)) (if l.writer = some m then none else l.writer)
      (l.queue.filter fun q => q.1 != m) (exclusive_without h m)
  refine ⟨fun b hb => ?_, fun hmem => hreaders n ?_, fun hwrites => hwriter n ?_, fun hout => ?_⟩
  · rw [line_giveBack h]
    exact List.mem_filter.mpr ⟨hb, by simpa using hn⟩
  · exact List.mem_filter.mpr ⟨hmem, by simpa using hn⟩
  · rw [hwrites, if_neg fun heq => hn (Option.some.inj heq)]
  · rw [mem_tickets_giveBack h]
    exact fun hmem => hout hmem.1

end CallChain.Lock
