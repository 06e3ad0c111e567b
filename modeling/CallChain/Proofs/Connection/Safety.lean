import CallChain.Proofs.Connection.Reachable
import CallChain.Transport.Scripted

/-!
# The connection of a client is safe under every schedule

Whatever tasks share a connection and however their steps fall, no two dials are in flight at once, the
connection comes from the dial that made it and goes by a drop only, and a dial that fails, panics or is
given up leaves neither a connection nor a claim on the lock behind and is nobody else's failure.
-/

set_option autoImplicit false

namespace CallChain.Dialer

variable {ι : Type} [DecidableEq ι] {d : Dialer}

/-- What tasks that share a connection can rely on. -/
structure Safe (d : Dialer) (s : Pool ι) : Prop where
  /-- A dial in flight is what is left of its task, up to what follows the dial. -/
  dialing : ∀ i q, (s.task i).dial = .inFlight q → ∃ op span n, (s.task i).rest =
    some (op, ((q.bind (d.conclude span)).guarded (release n)).bind told)
  /-- At most one dial is in flight. -/
  one : ∀ i j, (s.task i).IsDialing → (s.task j).IsDialing → i = j
  /-- A dial starts only while there is no connection and no dial in flight. -/
  starts : ∀ e s' i, Step d s e s' → ¬ (s.task i).IsDialing → (s'.task i).IsDialing →
    s.world.connection = none ∧ ∀ j, ¬ (s.task j).IsDialing
  /-- A connection is there once the dial that made it is over, and until it is dropped. -/
  changes : ∀ e s', Step d s e s' → s'.world.connection ≠ s.world.connection →
    (∃ i c, e = .acted i ∧ (s.task i).dial = .inFlight (.done (.ok (.ok c))) ∧
      (s'.task i).dial = .ended (.ok (.ok c)) ∧
      s.world.connection = none ∧ s'.world.connection = some c) ∨
    ∃ i rest c, e = .acted i ∧ (s.task i).rest = some (.close, rest) ∧
      s.world.connection = some c ∧ s'.world.connection = none
  /-- There is at most one more dial that succeeded than connections that were dropped. -/
  connected_le : s.connected ≤ s.released + 1
  /-- Who is told of a connection saw it while it held the lock. -/
  got : ∀ i c s', Step d s (.answered i (.got (.ok (.ok c)))) s' → c ∈ (s.task i).saw
  /-- A dial that ends without a connection leaves none. -/
  ends : ∀ e s' i q, Step d s e s' → (s.task i).dial = .inFlight q → ¬ (s'.task i).IsDialing →
    (∃ c, q = .done (.ok (.ok c))) ∨ s'.world.connection = none
  /-- And there is none until its task has given the lock back. -/
  failed : ∀ i r n, (s.task i).dial = .ended r → (∀ c, r ≠ .ok (.ok c)) →
    (s.task i).ticket = some n → n ∈ s.world.lock.tickets → s.world.connection = none
  /-- A task that is given up has nothing more to do with the lock. -/
  dropped : ∀ i s' n, Step d s (.dropped i) s' → (s.task i).ticket = some n →
    n ∉ s'.world.lock.tickets
  /-- Nor has a task with an answer. -/
  answered : ∀ i a s' n, Step d s (.answered i a) s' → (s.task i).ticket = some n →
    n ∉ s.world.lock.tickets
  /-- Who holds the lock or waits for it is at an operation. -/
  claimed : ∀ n ∈ s.world.lock.tickets, ∃ i, (s.task i).ticket = some n ∧ (s.task i).rest ≠ none
  /-- Nobody waits for a lock that is free. -/
  served : s.world.lock.readers = [] → s.world.lock.writer = none → s.world.lock.queue = []
  /-- Who is told of a failure had it from its own dial. -/
  blame : ∀ i r s', Step d s (.answered i (.got r)) s' → (∀ c, r ≠ .ok (.ok c)) →
    ∃ r', (s.task i).dial = .ended r' ∧ r = d.outcomeOf r'
  /-- A step of one task leaves the others where they are. -/
  others : ∀ e s' j, Step d s e s' → e.task? ≠ some j → s'.task j = s.task j

namespace Position

variable {p : Position} {τ : Task} {w : World}

/-- A dial is in flight in one position only. -/
theorem eq_dialing (hfits : p.Fits d τ w) {q : Work DialResult} (hdial : τ.dial = .inFlight q) :
    ∃ span n, p = .dialing span n q := by
  have hexpects := hfits.expects
  have hnone (h : τ.dial = .none) : False := by
    rw [hdial] at h
    cases h
  cases p with
  | dialing span n q' =>
    have heq := hexpects.1
    rw [hdial] at heq
    cases heq
    exact ⟨span, n, rfl⟩
  | leaveWrite n r | finished r => exact (hexpects.1.not_inFlight ⟨q, hdial⟩).elim
  | leaveRead span n found | startDial span n => exact (hnone hexpects.1).elim
  | askRead span | awaitRead span n | read span n | askWrite span | awaitWrite span n | look span n
  | askClose | awaitClose n | clear n | leaveClose n | closed => exact (hnone hexpects).elim

/-- An act changes the connection only at the end of a dial and in a drop. -/
theorem connection_change (hfits : p.Fits d τ w) :
    (p.change d w).connection = w.connection ∨
      (∃ c, τ.dial = .inFlight (.done (.ok (.ok c))) ∧ w.connection = none ∧
        (p.change d w).connection = some c) ∨
      (p.isClose = true ∧ (p.change d w).connection = none) := by
  have hexpects := hfits.expects
  cases p with
  | dialing span n q =>
    obtain ⟨hdial, hconnection, hspares⟩ := hexpects
    cases q with
    | act f next => exact .inl (hspares.1 w).2
    | wait g drop next => exact .inl rfl
    | done r =>
      obtain p | e | c := r
      · exact .inl rfl
      · exact .inl rfl
      · exact .inr (.inl ⟨c, hdial, hconnection, rfl⟩)
  | clear n => exact .inr (.inr ⟨rfl, rfl⟩)
  | askRead span | awaitRead span n | read span n | leaveRead span n found | askWrite span
  | awaitWrite span n | look span n | startDial span n | leaveWrite n r | finished r | askClose
  | awaitClose n | leaveClose n | closed => exact .inl rfl

/-- A dial that begins does so while there is no connection. -/
theorem connection_of_starts (hfits : p.Fits d τ w) (hdial : ¬ τ.IsDialing) {span : Option LogFields}
    {n : Nat} {q : Work DialResult} (hnext : p.next d w = .dialing span n q) :
    w.connection = none := by
  have hexpects := hfits.expects
  cases p with
  | startDial span n => exact hexpects.2
  | dialing span n q' => exact absurd ⟨q', hexpects.1⟩ hdial
  | leaveRead span n found => cases found <;> cases hnext
  | look span n =>
    unfold next at hnext
    cases hconnection : w.connection with
    | none => rfl
    | some c =>
      rw [hconnection] at hnext
      cases hnext
  | askRead span | awaitRead span n | read span n | askWrite span | awaitWrite span n
  | leaveWrite n r | finished r | askClose | awaitClose n | clear n | leaveClose n | closed =>
    cases hnext

end Position

section

variable {s s' : Pool ι} {e : Event ι} {i j : ι}

/-- Going on starts no dial. -/
theorem isDialing_of_woken {τ : Task} {op : Operation} {next : Work Answer} {w : World}
    (h : (τ.woken op next w).IsDialing) : τ.IsDialing := by
  obtain ⟨q, hq⟩ := h
  have hq : τ.dial.woken = .inFlight q := hq
  unfold Task.IsDialing
  cases hdial : τ.dial with
  | inFlight q' => exact ⟨q', rfl⟩
  | none | ended r | abandoned =>
    rw [hdial] at hq
    cases hq

theorem assign_self (s : Pool ι) (i : ι) (τ : Task) : s.assign i τ i = τ := if_pos rfl

theorem assign_other (s : Pool ι) (τ : Task) (h : j ≠ i) : s.assign i τ j = s.task j := if_neg h

/-- A step of one task leaves the others where they are. -/
theorem Step.task_other (h : Step d s e s') (hj : e.task? ≠ some j) : s'.task j = s.task j := by
  cases h with
  | passed hlock hconnection => rfl
  | @began i op h | @acted i op f next h | @woke i op g drop next h hholds
  | @dropped i op g drop next h | @answered i op a h =>
    exact assign_other s _ fun heq => hj (congrArg some heq.symm)

omit [DecidableEq ι] in
/-- A dial in flight holds the lock for writing, and there is no connection. -/
theorem Inv.of_inFlight (h : Inv d s) {q : Work DialResult} (hdial : (s.task i).dial = .inFlight q) :
    ∃ op span n, (s.task i).rest = some (op, (Position.dialing span n q).work d) ∧
      (Position.dialing span n q).Fits d (s.task i) s.world := by
  cases h.inOrder i with
  | idle _ _ hidle => exact absurd ⟨q, hdial⟩ hidle
  | busy op p hrest hop hfits =>
    obtain ⟨span, n, rfl⟩ := Position.eq_dialing hfits hdial
    exact ⟨op, span, n, hrest, hfits⟩

omit [DecidableEq ι] in
theorem Inv.eq_of_isDialing (h : Inv d s) (hi : (s.task i).IsDialing) (hj : (s.task j).IsDialing) :
    i = j := by
  obtain ⟨q, hq⟩ := hi
  obtain ⟨q', hq'⟩ := hj
  obtain ⟨_, _, n, -, hfits⟩ := h.of_inFlight hq
  obtain ⟨_, _, m, -, hfits'⟩ := h.of_inFlight hq'
  obtain ⟨hticket, hwriter⟩ := hfits.claim
  obtain ⟨hticket', hwriter'⟩ := hfits'.claim
  have heq : n = m := Option.some.inj (hwriter.symm.trans hwriter')
  rw [← heq] at hticket'
  exact h.apart i j n hticket hticket'

theorem Step.task?_of_starts (hstep : Step d s e s') (hi : ¬ (s.task i).IsDialing)
    (hi' : (s'.task i).IsDialing) : e.task? = some i := by
  refine Decidable.byContradiction fun hne => hi ?_
  rw [← hstep.task_other hne]
  exact hi'

/-- A dial begins in an act of its task, when there is no connection. -/
theorem Inv.connection_of_starts (hconnector : d.connector.Spares) (h : Inv d s)
    (hstep : Step d s e s') (hi : ¬ (s.task i).IsDialing) (hi' : (s'.task i).IsDialing) :
    s.world.connection = none := by
  have htask := hstep.task?_of_starts hi hi'
  cases hstep with
  | passed hlock hconnection => cases htask
  | @began i op hrest =>
    cases htask
    simp only [assign_self] at hi'
    obtain ⟨q, hq⟩ := hi'
    cases hq
  | @acted i op f next hrest =>
    cases htask
    simp only [assign_self] at hi'
    obtain ⟨p, hwork, -, hfits⟩ := h.position hrest
    obtain ⟨rfl, -⟩ := Position.work_act hwork.symm
    obtain ⟨q, hq⟩ := hi'
    have hfits' : (p.next d s.world).Fits d ((s.task i).acted d op (p.change d) next s.world)
        (p.change d s.world) := Position.fits_acted hconnector hfits h.sound hwork.symm
    obtain ⟨span, n, hnext⟩ := Position.eq_dialing hfits' hq
    exact Position.connection_of_starts hfits hi hnext
  | @woke i op g drop next hrest hholds =>
    cases htask
    simp only [assign_self] at hi'
    exact absurd (isDialing_of_woken hi') hi
  | @dropped i op g drop next hrest =>
    cases htask
    simp only [assign_self] at hi'
    exact absurd hi' (not_isDialing_dropped _)
  | @answered i op a hrest =>
    cases htask
    simp only [assign_self] at hi'
    exact absurd hi' hi

/-- The connection comes at the end of the dial that made it and goes in a drop. -/
theorem Inv.connection_changes (h : Inv d s) (hstep : Step d s e s')
    (hne : s'.world.connection ≠ s.world.connection) :
    (∃ i c, e = .acted i ∧ (s.task i).dial = .inFlight (.done (.ok (.ok c))) ∧
      (s'.task i).dial = .ended (.ok (.ok c)) ∧
      s.world.connection = none ∧ s'.world.connection = some c) ∨
    ∃ i rest c, e = .acted i ∧ (s.task i).rest = some (.close, rest) ∧
      s.world.connection = some c ∧ s'.world.connection = none := by
  cases hstep with
  | passed hlock hconnection => exact absurd hconnection hne
  | @began i op hrest => exact absurd rfl hne
  | @woke i op g drop next hrest hholds => exact absurd rfl hne
  | @answered i op a hrest => exact absurd rfl hne
  | @dropped i op g drop next hrest =>
    obtain ⟨p, hwork, -, hfits⟩ := h.position hrest
    obtain ⟨hwaits, -⟩ := Position.work_wait hwork.symm
    obtain ⟨-, -, hconnection, -⟩ := Position.inOrder_dropped hfits h.sound hwaits
    exact absurd hconnection hne
  | @acted i op f next hrest =>
    obtain ⟨p, hwork, hop, hfits⟩ := h.position hrest
    obtain ⟨rfl, -⟩ := Position.work_act hwork.symm
    rcases Position.connection_change hfits with heq | ⟨c, hdial, hnone, hsome⟩ | ⟨hclose, hnone⟩
    · exact absurd heq hne
    · refine .inl ⟨i, c, rfl, hdial, ?_, hnone, hsome⟩
      simp only [assign_self]
      show (s.task i).dial.acted d _ s.world = _
      rw [hdial]
      rfl
    · cases hconnection : s.world.connection with
      | none => exact absurd (hnone.trans hconnection.symm) hne
      | some c =>
        cases op with
        | get span =>
          rw [hclose] at hop
          cases hop
        | close => exact .inr ⟨i, _, c, rfl, hrest, rfl, hnone⟩

/-- A dial that ends without a connection leaves none. -/
theorem Inv.connection_of_ends (h : Inv d s) (hstep : Step d s e s') {q : Work DialResult}
    (hdial : (s.task i).dial = .inFlight q) :
    (∃ c, q = .done (.ok (.ok c))) ∨ s'.world.connection = none := by
  obtain ⟨_, _, _, -, hfits⟩ := h.of_inFlight hdial
  have hnone : s.world.connection = none := hfits.expects.2.1
  by_cases hne : s'.world.connection = s.world.connection
  · exact .inr (hne.trans hnone)
  · rcases h.connection_changes hstep hne with ⟨j, c, -, hj, -⟩ | ⟨_, _, c, -, -, hsome, -⟩
    · obtain rfl := h.eq_of_isDialing ⟨q, hdial⟩ ⟨_, hj⟩
      rw [hdial] at hj
      cases hj
      exact .inl ⟨c, rfl⟩
    · rw [hnone] at hsome
      cases hsome

omit [DecidableEq ι] in
/-- After a dial failed there is no connection until its task has given the lock back. -/
theorem Inv.connection_of_failed (h : Inv d s) {r : DialResult} {n : Nat}
    (hdial : (s.task i).dial = .ended r) (hr : ∀ c, r ≠ .ok (.ok c))
    (hticket : (s.task i).ticket = some n) (hn : n ∈ s.world.lock.tickets) :
    s.world.connection = none := by
  cases h.inOrder i with
  | idle _ hclaim _ => exact absurd hn (hclaim n hticket)
  | busy op p hrest hop hfits =>
    have hclaim := hfits.claim
    have hexpects := hfits.expects
    have hnone (hnone : (s.task i).dial = .none) : False := by
      rw [hdial] at hnone
      cases hnone
    cases p with
    | leaveWrite m r' =>
      obtain ⟨haccounts, hconnection⟩ := hexpects
      rw [hdial] at haccounts
      cases haccounts
      rw [hconnection]
      obtain p | e | c := r
      · rfl
      · rfl
      · exact absurd rfl (hr c)
    | finished r' => exact absurd hn (hclaim n hticket)
    | dialing span m q =>
      have heq := hexpects.1
      rw [hdial] at heq
      cases heq
    | leaveRead span m found | startDial span m => exact (hnone hexpects.1).elim
    | askRead span | awaitRead span m | read span m | askWrite span | awaitWrite span m
    | look span m | askClose | awaitClose m | clear m | leaveClose m | closed =>
      exact (hnone hexpects).elim

omit [DecidableEq ι] in
/-- A task that is told something stands in a last position. -/
theorem Inv.fits_finished (h : Inv d s) {op : Operation} {r : GetResult}
    (hrest : (s.task i).rest = some (op, .done (.got r))) :
    (Position.finished r).Fits d (s.task i) s.world := by
  obtain ⟨p, hwork, -, hfits⟩ := h.position hrest
  rcases Position.work_done hwork.symm with ⟨r', rfl, heq⟩ | ⟨-, heq⟩
  · cases heq
    exact hfits
  · cases heq

omit [DecidableEq ι] in
/-- A task with an answer has nothing more to do with the lock. -/
theorem Inv.not_mem_of_done (h : Inv d s) {op : Operation} {a : Answer}
    (hrest : (s.task i).rest = some (op, .done a)) : Claim.none.Met s.world.lock (s.task i).ticket := by
  obtain ⟨p, hwork, -, hfits⟩ := h.position hrest
  rcases Position.work_done hwork.symm with ⟨r, rfl, -⟩ | ⟨rfl, -⟩
  · exact hfits.claim
  · exact hfits.claim

/-- Nor has a task that is given up. -/
theorem Inv.not_mem_of_dropped (h : Inv d s) (hstep : Step d s (.dropped i) s') :
    Claim.none.Met s'.world.lock (s.task i).ticket := by
  cases hstep with
  | @dropped _ op g drop next hrest =>
    obtain ⟨p, hwork, -, hfits⟩ := h.position hrest
    obtain ⟨hwaits, -⟩ := Position.work_wait hwork.symm
    obtain ⟨horder, -⟩ := Position.inOrder_dropped hfits h.sound hwaits
    cases horder with
    | idle _ hclaim _ => exact hclaim
    | busy op' p' hbusy _ _ => cases hbusy

omit [DecidableEq ι] in
/-- Whose ticket is in the line is at an operation. -/
theorem Inv.rest_of_mem (h : Inv d s) {n : Nat} (hn : n ∈ s.world.lock.tickets) :
    ∃ i, (s.task i).ticket = some n ∧ (s.task i).rest ≠ none := by
  obtain ⟨i, hi⟩ := h.owned n hn
  refine ⟨i, hi, fun hrest => ?_⟩
  cases h.inOrder i with
  | idle _ hclaim _ => exact hclaim n hi hn
  | busy op p hbusy _ _ =>
    rw [hbusy] at hrest
    cases hrest

end

/-- Tasks that share a connection can rely on it in every reachable pool. -/
theorem safe_of_reachable (hconnector : d.connector.Spares) {s : Pool ι} (h : Reachable d s) :
    Safe d s := by
  have hinv := h.inv hconnector
  refine
    { dialing := ?dialing
      one := fun i j => hinv.eq_of_isDialing
      starts := ?starts
      changes := fun e s' => hinv.connection_changes
      connected_le := ?connected_le
      got := ?got
      ends := fun e s' i q hstep hdial _ => hinv.connection_of_ends hstep hdial
      failed := fun i r n => hinv.connection_of_failed
      dropped := fun i s' n hstep => hinv.not_mem_of_dropped hstep n
      answered := ?answered
      claimed := fun n => hinv.rest_of_mem
      served := ?served
      blame := ?blame
      others := fun e s' j => Step.task_other }
  case dialing =>
    intro i q hdial
    obtain ⟨op, span, n, hrest, -⟩ := hinv.of_inFlight hdial
    exact ⟨op, span, n, hrest⟩
  case starts =>
    intro e s' i hstep hi hi'
    refine ⟨hinv.connection_of_starts hconnector hstep hi hi', fun j hj => ?_⟩
    have hji : j ≠ i := fun heq => hi (heq ▸ hj)
    have hj' : (s'.task j).IsDialing := by
      rw [hstep.task_other]
      · exact hj
      · rw [hstep.task?_of_starts hi hi']
        exact fun heq => hji (Option.some.inj heq).symm
    exact hji ((hinv.step hconnector hstep).eq_of_isDialing hj' hi')
  case connected_le =>
    have hbalance := hinv.balance
    have hle : s.world.connection.toList.length ≤ 1 := by
      cases s.world.connection <;> simp
    omega
  case got =>
    rintro i c s' ⟨⟩
    next hrest => exact (hinv.fits_finished hrest).expects.2 c rfl
  case answered =>
    rintro i a s' n ⟨⟩
    next hrest => exact hinv.not_mem_of_done hrest n
  case served =>
    intro hreaders hwriter
    rcases hinv.sound.served with hqueue | hne | hne
    · exact hqueue
    · exact absurd hreaders hne
    · exact absurd hwriter hne
  case blame =>
    rintro i r s' ⟨⟩ hr
    next hrest =>
      have haccounts := (hinv.fits_finished hrest).expects.1
      generalize (s.task i).dial = dial at haccounts
      cases haccounts with
      | found c => exact absurd rfl (hr c)
      | dialed r' => exact ⟨r', rfl, rfl⟩

/-- The dials of a scripted remote side spare the lock and the connection. -/
theorem spares_scripted (r : ScriptedRemote) : r.connector.Spares := by
  intro address tls
  obtain ⟨handler, failure, connectDelay, sendDelay⟩ := r
  refine ⟨fun _ => ⟨rfl, rfl⟩, fun _ => ?_⟩
  cases connectDelay with
  | none =>
    cases failure with
    | none => exact ⟨fun _ => ⟨rfl, rfl⟩, fun _ => trivial⟩
    | some reason => exact trivial
  | some delay =>
    refine ⟨fun _ => ⟨rfl, rfl⟩, fun _ => ⟨fun _ => ⟨rfl, rfl⟩, ?_⟩⟩
    cases failure with
    | none => exact ⟨fun _ => ⟨rfl, rfl⟩, fun _ => trivial⟩
    | some reason => exact trivial

/-- The dialer of a scripted remote side, without TLS. -/
def scripted (r : ScriptedRemote) : Dialer :=
  ⟨"http://service.test", .plain, .new ⟨"localhost", 1, "service", .oneFile "library"⟩, r.connector⟩

/-- A pool in which one task dials while another one waits for the lock. -/
theorem safe_of_reachable_dialing :
    ∃ s : Pool Nat, Reachable (scripted .ok) s ∧ (s.task 0).IsDialing ∧ Safe (scripted .ok) s := by
  have h₀ : Reachable (scripted .ok) (⟨.initial, fun _ => .idle, 0, 0⟩ : Pool Nat) := .start rfl rfl
  have h₁ := h₀.step (.began (i := 0) (.get none) rfl)
  have h₂ := h₁.step (.acted (i := 0) rfl)
  have h₃ := h₂.step (.woke (i := 0) rfl rfl)
  have h₄ := h₃.step (.acted (i := 0) rfl)
  have h₅ := h₄.step (.acted (i := 0) rfl)
  have h₆ := h₅.step (.acted (i := 0) rfl)
  have h₇ := h₆.step (.woke (i := 0) rfl rfl)
  have h₈ := h₇.step (.acted (i := 0) rfl)
  have h₉ := h₈.step (.acted (i := 0) rfl)
  exact ⟨_, h₉, ⟨_, rfl⟩, safe_of_reachable (spares_scripted .ok) h₉⟩

end CallChain.Dialer
