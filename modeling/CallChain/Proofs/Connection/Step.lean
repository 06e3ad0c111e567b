import CallChain.Proofs.Connection.Invariant

/-!
# What a step does to its own task

One case for each position: the task that acts or goes on from a position it fits, fits the next position
in the world it leaves behind; a task that is given up has nothing to do with the lock any more; and the
balance between dials that succeeded and connections that were dropped is kept.
-/

set_option autoImplicit false

namespace CallChain.Dialer

variable {d : Dialer} {τ : Task} {w : World} {p : Position} {op : Operation}

theorem dials_record_dialed (address : String) (mode : TlsMode) (w : World) :
    (w.record (.dialed address mode)).dials = w.dials + 1 := by
  simp [World.record, World.dials]

theorem mem_sawIn {n : Nat} {c : ConnectionId} (hticket : τ.ticket = some n)
    (hgranted : w.lock.isGranted n = true) (hc : w.connection = some c) : c ∈ τ.sawIn w := by
  unfold Task.sawIn
  rw [hticket, hc]
  simp [hgranted]

theorem isGranted_of_met {n : Nat} {writing : Bool}
    (h : (Claim.holds n writing).Met w.lock τ.ticket) : w.lock.isGranted n = true := by
  cases writing with
  | false => simp [Lock.isGranted, h.2]
  | true => simp [Lock.isGranted, h.2]

/-- A ticket that is given back is out of the line. -/
theorem none_met_release {n : Nat} {ticket : Option Nat} (hsound : w.lock.Sound)
    (hticket : ticket = some n) : Claim.none.Met (release n w).lock ticket := by
  intro m hm
  obtain rfl : n = m := Option.some.inj (hticket.symm.trans hm)
  show n ∉ (w.lock.giveBack n).tickets
  rw [Lock.mem_tickets_giveBack hsound]
  exact fun h => h.2 rfl

/-- A task that asks for the lock stands in the line under the ticket it draws. -/
theorem waits_met_demand (hsound : w.lock.Sound) (writing : Bool) (next : World → Work Answer) :
    (Claim.waits w.lock.nextTicket writing).Met (demand writing w).lock
      (τ.acted d op (demand writing) next w).ticket := by
  constructor
  · show (if (demand writing w).lock.nextTicket = w.lock.nextTicket then τ.ticket
      else some w.lock.nextTicket) = _
    rw [if_neg]
    exact Nat.succ_ne_self _
  · show _ ∈ (w.lock.request writing).line
    rw [Lock.line_request hsound]
    exact List.mem_append_right _ List.mem_cons_self

/-- A dial that has not begun does not begin unless the world counts one more. -/
theorem acted_none {f : World → World} (h : (f w).dials = w.dials) :
    DialState.none.acted d f w = .none := by
  unfold DialState.acted
  rw [if_pos h]

/-- A task that draws no ticket has the one it had. -/
theorem ticket_acted {f : World → World} {next : World → Work Answer}
    (h : (f w).lock.nextTicket = w.lock.nextTicket) :
    (τ.acted d op f next w).ticket = τ.ticket := by
  show (if (f w).lock.nextTicket = w.lock.nextTicket then _ else _) = _
  rw [if_pos h]

/-- An act that counts no dial begins none. -/
theorem dial_acted_none {f : World → World} {next : World → Work Answer} (hdial : τ.dial = .none)
    (hf : (f w).dials = w.dials) : (τ.acted d op f next w).dial = .none := by
  show τ.dial.acted d f w = .none
  rw [hdial]
  exact acted_none hf

/-- Nothing is left in flight of a task that is given up. -/
theorem not_isDialing_dropped (τ : Task) : ¬ τ.dropped.IsDialing := by
  rintro ⟨q, hq⟩
  have hq : τ.dial.dropped = .inFlight q := hq
  cases hdial : τ.dial <;> rw [hdial] at hq <;> cases hq

/-- Who never dialed was told of a connection. -/
theorem Accounts.of_none {dial : DialState} (h : dial = .none) (c : ConnectionId) :
    Accounts d dial (.ok (.ok c)) := by
  rw [h]
  exact .found c

/-- What is accounted for stays so. -/
theorem Accounts.acted {f : World → World} {dial : DialState} {r : GetResult}
    (h : Accounts d dial r) (hf : (f w).dials = w.dials) : Accounts d (dial.acted d f w) r := by
  cases h with
  | found c =>
    rw [acted_none hf]
    exact .found c
  | dialed r => exact .dialed r

/-- What is accounted for is past its dial. -/
theorem Accounts.successes {dial : DialState} {r : GetResult} (h : Accounts d dial r) :
    dial.successes = 0 := by
  cases h <;> rfl

theorem Accounts.not_inFlight {dial : DialState} {r : GetResult} (h : Accounts d dial r) :
    ¬ ∃ q, dial = .inFlight q := by
  rintro ⟨q, rfl⟩
  cases h

theorem releases_of_same {f : World → World} (h : (f w).connection = w.connection) :
    releases op f w = 0 := by
  unfold releases
  rw [h, if_neg]
  rintro ⟨-, hsome, hnone⟩
  rw [hnone] at hsome
  cases hsome

namespace Position

/-- What a position that acts does to the others. -/
theorem effect_change (hfits : p.Fits d τ w) (hsound : w.lock.Sound) :
    Effect τ.ticket w (p.change d w) := by
  have hclaim := hfits.claim
  have hexpects := hfits.expects
  cases p with
  | askRead span => exact effect_demand hsound hclaim false
  | askWrite span | askClose => exact effect_demand hsound hclaim true
  | leaveRead span n found | leaveWrite n r | leaveClose n =>
    rw [hclaim.1]
    exact effect_release hsound rfl rfl
  | clear n =>
    rw [hclaim.1]
    exact effect_write hsound hclaim.2 none
  | dialing span n q =>
    obtain ⟨-, -, hspares⟩ := hexpects
    cases q with
    | act f next =>
      obtain ⟨hlock, hconnection⟩ := hspares.1 w
      exact effect_spares hsound hlock hconnection
    | wait g drop next => exact effect_spares hsound rfl rfl
    | done r =>
      obtain p | e | c := r
      · rw [hclaim.1]
        exact effect_release hsound rfl rfl
      · exact effect_spares hsound rfl rfl
      · rw [hclaim.1]
        exact effect_write hsound hclaim.2 (some c)
  | awaitRead span n | read span n | awaitWrite span n | look span n | startDial span n
  | finished r | awaitClose n | closed => exact effect_spares hsound rfl rfl

/-- A task that acts fits the next position. -/
theorem fits_acted (hconnector : d.connector.Spares) (hfits : p.Fits d τ w) (hsound : w.lock.Sound)
    {rest : World → Work Answer} (hact : p.work d = .act (p.change d) rest) :
    (p.next d w).Fits d (τ.acted d op (p.change d) rest w) (p.change d w) := by
  have hclaim := hfits.claim
  have hexpects := hfits.expects
  cases p with
  | askRead span =>
    exact ⟨waits_met_demand hsound false rest, dial_acted_none hexpects rfl⟩
  | askWrite span | askClose =>
    exact ⟨waits_met_demand hsound true rest, dial_acted_none hexpects rfl⟩
  | read span n =>
    refine ⟨?_, dial_acted_none hexpects rfl, rfl⟩
    rw [ticket_acted rfl]
    exact hclaim
  | leaveRead span n found =>
    obtain ⟨hdial, hfound⟩ := hexpects
    have hdial' : (τ.acted d op (release n) rest w).dial = .none := dial_acted_none hdial rfl
    have hout : Claim.none.Met (release n w).lock
        (τ.acted d op (release n) rest w).ticket := by
      rw [ticket_acted rfl]
      exact none_met_release hsound hclaim.1
    cases found with
    | none => exact ⟨hout, hdial'⟩
    | some c =>
      refine ⟨hout, .of_none hdial' c, ?_⟩
      rintro c' ⟨⟩
      exact mem_sawIn hclaim.1 (isGranted_of_met hclaim) hfound
  | look span n =>
    have hdial : (τ.acted d op id rest w).dial = .none := dial_acted_none hexpects rfl
    have hheld : (Claim.holds n true).Met w.lock (τ.acted d op id rest w).ticket := by
      rw [ticket_acted rfl]
      exact hclaim
    unfold next
    cases hconnection : w.connection with
    | none => exact ⟨hheld, hdial, hconnection⟩
    | some c => exact ⟨hheld, .of_none hdial c, hconnection⟩
  | startDial span n =>
    obtain ⟨hdial, hconnection⟩ := hexpects
    refine ⟨?_, ?_, hconnection, hconnector d.address d.tls⟩
    · rw [ticket_acted rfl]
      exact hclaim
    · show τ.dial.acted d (World.record (.dialed d.address d.tls.mode)) w = _
      rw [hdial]
      unfold DialState.acted
      rw [dials_record_dialed, if_neg (Nat.succ_ne_self _)]
  | dialing span n q =>
    obtain ⟨hdial, hconnection, hspares⟩ := hexpects
    have hdial' (f : World → World) : (τ.acted d op f rest w).dial =
        DialState.acted d f w (.inFlight q) := congrArg (DialState.acted d f w) hdial
    cases q with
    | act f next =>
      obtain ⟨hlock, hconnection'⟩ := hspares.1 w
      refine ⟨?_, hdial' f, hconnection'.trans hconnection, hspares.2 w⟩
      show (Claim.holds n true).Met (f w).lock (τ.acted d op f rest w).ticket
      rw [ticket_acted (congrArg Lock.nextTicket hlock), hlock]
      exact hclaim
    | wait g drop next => cases hact
    | done r =>
      obtain p | e | c := r
      · refine ⟨?_, ?_, fun c hc => by cases hc⟩
        · rw [ticket_acted rfl]
          exact none_met_release hsound hclaim.1
        · rw [hdial']
          exact .dialed (.error p)
      · refine ⟨?_, ?_, hconnection⟩
        · rw [ticket_acted rfl]
          exact hclaim
        · rw [hdial']
          exact .dialed (.ok (.error e))
      · refine ⟨?_, ?_, rfl⟩
        · rw [ticket_acted rfl]
          exact hclaim
        · rw [hdial']
          exact .dialed (.ok (.ok c))
  | leaveWrite n r =>
    obtain ⟨haccounts, hconnection⟩ := hexpects
    refine ⟨?_, haccounts.acted rfl, ?_⟩
    · rw [ticket_acted rfl]
      exact none_met_release hsound hclaim.1
    · rintro c rfl
      exact mem_sawIn hclaim.1 (isGranted_of_met hclaim) hconnection
  | clear n =>
    refine ⟨?_, dial_acted_none hexpects rfl⟩
    rw [ticket_acted rfl]
    exact hclaim
  | leaveClose n =>
    refine ⟨?_, dial_acted_none hexpects rfl⟩
    rw [ticket_acted rfl]
    exact none_met_release hsound hclaim.1
  | awaitRead span n | awaitWrite span n | finished r | awaitClose n | closed => cases hact

theorem isClose_next (w : World) (p : Position) : (p.next d w).isClose = p.isClose := by
  cases p with
  | leaveRead span n found => cases found <;> rfl
  | look span n =>
    unfold next
    cases w.connection <;> rfl
  | dialing span n q =>
    cases q with
    | done r => obtain p | r := r <;> rfl
    | act f next | wait g drop next => rfl
  | askRead span | awaitRead span n | read span n | askWrite span | awaitWrite span n
  | startDial span n | leaveWrite n r | finished r | askClose | awaitClose n | clear n
  | leaveClose n | closed => rfl

/-- Every connection that there is has been dialed and not dropped yet. -/
theorem balance_change (hfits : p.Fits d τ w) (hop : p.isClose = op.isClose) :
    τ.dial.successes + w.connection.toList.length =
      releases op (p.change d) w + (p.change d w).connection.toList.length := by
  have hexpects := hfits.expects
  have hsame {f : World → World} (hdial : τ.dial.successes = 0)
      (hf : (f w).connection = w.connection) : τ.dial.successes + w.connection.toList.length =
        releases op f w + (f w).connection.toList.length := by
    rw [hdial, releases_of_same hf, hf]
  cases p with
  | dialing span n q =>
    obtain ⟨hdial, hconnection, hspares⟩ := hexpects
    cases q with
    | act f next => exact hsame (by rw [hdial]; rfl) (hspares.1 w).2
    | wait g drop next => exact hsame (by rw [hdial]; rfl) rfl
    | done r =>
      obtain p | e | c := r
      · exact hsame (by rw [hdial]; rfl) rfl
      · exact hsame (by rw [hdial]; rfl) rfl
      · show _ = releases op _ w + 1
        unfold releases
        rw [hdial, hconnection, ← hop]
        rfl
  | clear n =>
    show _ = releases op _ w + 0
    unfold releases
    rw [show τ.dial = .none from hexpects, ← hop]
    cases w.connection <;> rfl
  | leaveRead span n found | startDial span n => exact hsame (by rw [hexpects.1]; rfl) rfl
  | leaveWrite n r | finished r => exact hsame hexpects.1.successes rfl
  | askRead span | awaitRead span n | read span n | askWrite span | awaitWrite span n | look span n
  | askClose | awaitClose n | leaveClose n | closed =>
    exact hsame (by rw [show τ.dial = .none from hexpects]; rfl) rfl

/-- A task that goes on fits the next position. -/
theorem fits_woken {g : Guard} {drop : World → World} {rest : Work Answer}
    (hfits : p.Fits d τ w) (hsound : w.lock.Sound) (hwaits : Waits p g drop)
    (hholds : g.holds w = true) : (p.next d w).Fits d (τ.woken op rest w) w := by
  have hclaim := hfits.claim
  have hexpects := hfits.expects
  have hnone (h : τ.dial = .none) : (τ.woken op rest w).dial = .none := by
    show τ.dial.woken = _
    rw [h]
    rfl
  cases hwaits with
  | @lock _ n writing h =>
    rw [h] at hclaim
    cases p with
    | awaitRead span m =>
      cases h
      exact ⟨⟨hclaim.1, Lock.reader_of_isGranted hsound hclaim.2 hholds⟩, hnone hexpects⟩
    | awaitWrite span m | awaitClose m =>
      cases h
      exact ⟨⟨hclaim.1, Lock.writer_of_isGranted hsound hclaim.2 hholds⟩, hnone hexpects⟩
    | askRead span | read span m | leaveRead span m found | askWrite span | look span m
    | startDial span m | dialing span m q | leaveWrite m r | finished r | askClose | clear m
    | leaveClose m | closed => cases h
  | dial span n g drop q =>
    obtain ⟨hdial, hconnection, hspares⟩ := hexpects
    refine ⟨hclaim, ?_, hconnection, hspares.2⟩
    show τ.dial.woken = .inFlight q
    rw [hdial]
    rfl

/-- A task that is given up has nothing to do with the lock any more, and leaves the connection. -/
theorem inOrder_dropped {g : Guard} {drop : World → World} (hfits : p.Fits d τ w)
    (hsound : w.lock.Sound) (hwaits : Waits p g drop) :
    τ.dropped.InOrder d (drop w) ∧ Effect τ.ticket w (drop w) ∧
      (drop w).connection = w.connection ∧ (drop w).lock.nextTicket = w.lock.nextTicket := by
  have hclaim := hfits.claim
  cases hwaits with
  | @lock _ n writing h =>
    rw [h] at hclaim
    refine ⟨.idle rfl (none_met_release hsound hclaim.1) (not_isDialing_dropped τ), ?_, rfl, rfl⟩
    rw [hclaim.1]
    exact effect_release hsound rfl rfl
  | dial span n g drop q =>
    obtain ⟨-, -, hspares⟩ := hfits.expects
    obtain ⟨hlock, hconnection⟩ := hspares.1 w
    have hsound' : (drop w).lock.Sound := by
      rw [hlock]
      exact hsound
    refine ⟨.idle rfl (none_met_release hsound' hclaim.1) (not_isDialing_dropped τ), ?_, hconnection,
      (congrArg Lock.nextTicket hlock :)⟩
    rw [hclaim.1]
    exact effect_release hsound (congrArg (Lock.giveBack n) hlock) hconnection

end Position

end CallChain.Dialer
