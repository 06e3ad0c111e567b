import CallChain.Proofs.Connection.Step

/-!
# What holds of every reachable pool

`Inv` is the invariant of tasks that share a connection: the lock is in order, every task is, tickets are
told apart, and every ticket in the line has its task.  `Inv.assign` carries it over a step of one task, and
`Reachable.inv` over every schedule.
-/

set_option autoImplicit false

namespace CallChain.Dialer

variable {ι : Type} [DecidableEq ι] {d : Dialer}

/-- What every reachable pool satisfies. -/
structure Inv (d : Dialer) (s : Pool ι) : Prop where
  sound : s.world.lock.Sound
  inOrder : ∀ i, (s.task i).InOrder d s.world
  drawn : ∀ i n, (s.task i).ticket = some n → n < s.world.lock.nextTicket
  apart : ∀ i j n, (s.task i).ticket = some n → (s.task j).ticket = some n → i = j
  owned : ∀ n ∈ s.world.lock.tickets, ∃ i, (s.task i).ticket = some n
  balance : s.connected = s.released + s.world.connection.toList.length

namespace Inv

variable {s s' : Pool ι} {e : Event ι}

omit [DecidableEq ι] in
theorem start {w : World} (hlock : w.lock = .free) (hconnection : w.connection = none) :
    Inv d (⟨w, fun _ => .idle, 0, 0⟩ : Pool ι) where
  sound := by
    rw [show (⟨w, fun _ => .idle, 0, 0⟩ : Pool ι).world.lock = .free from hlock]
    exact Lock.sound_free
  inOrder i := by
    refine .idle rfl (fun n hn => by cases hn) ?_
    rintro ⟨q, hq⟩
    cases hq
  drawn _ _ h := by cases h
  apart _ _ _ h := by cases h
  owned n hn := by
    rw [show (⟨w, fun _ => .idle, 0, 0⟩ : Pool ι).world.lock = .free from hlock] at hn
    cases hn
  balance := by
    show 0 = 0 + w.connection.toList.length
    rw [hconnection]
    rfl

/-- A step of one task keeps the invariant if it is right for the task itself. -/
theorem assign (h : Inv d s) {i : ι} {τ : Task} {w : World} {connected released : Nat}
    (heffect : Effect (s.task i).ticket s.world w) (horder : τ.InOrder d w)
    (hticket : τ.ticket = if w.lock.nextTicket = s.world.lock.nextTicket then (s.task i).ticket
      else some s.world.lock.nextTicket)
    (hbalance : connected = released + w.connection.toList.length) :
    Inv d ⟨w, s.assign i τ, connected, released⟩ := by
  have hself : s.assign i τ i = τ := if_pos rfl
  have hother {j : ι} (hj : j ≠ i) : s.assign i τ j = s.task j := if_neg hj
  -- The ticket of the task is the one it had, or was drawn just now.
  have hcases {n : Nat} (hn : τ.ticket = some n) : (s.task i).ticket = some n ∨
      (n = s.world.lock.nextTicket ∧ w.lock.nextTicket ≠ s.world.lock.nextTicket) := by
    rw [hticket] at hn
    split at hn
    next => exact .inl hn
    next hne => exact .inr ⟨(Option.some.inj hn).symm, hne⟩
  refine ⟨heffect.sound, fun j => ?_, fun j n hn => ?_, fun j k n hj hk => ?_, fun n hn => ?_,
    hbalance⟩
  · show (s.assign i τ j).InOrder d w
    by_cases hj : j = i
    · rw [hj, hself]
      exact horder
    · rw [hother hj]
      exact (h.inOrder j).frame h.sound heffect (h.drawn j) fun n hn hi => hj (h.apart j i n hn hi)
  · have hn : (s.assign i τ j).ticket = some n := hn
    have hle := heffect.nextTicket
    show n < w.lock.nextTicket
    by_cases hj : j = i
    · rw [hj, hself] at hn
      rcases hcases hn with hold | ⟨rfl, hne⟩
      · have hlt := h.drawn i n hold
        omega
      · omega
    · rw [hother hj] at hn
      have hlt := h.drawn j n hn
      omega
  · have hj : (s.assign i τ j).ticket = some n := hj
    have hk : (s.assign i τ k).ticket = some n := hk
    -- A ticket drawn just now is nobody else's.
    have hnew {m : ι} (hm : m ≠ i) (hmn : (s.task m).ticket = some n) : τ.ticket ≠ some n := by
      intro hn
      rcases hcases hn with hold | ⟨rfl, -⟩
      · exact hm (h.apart m i n hmn hold)
      · exact absurd (h.drawn m _ hmn) (Nat.lt_irrefl _)
    by_cases hji : j = i
    · by_cases hki : k = i
      · rw [hji, hki]
      · rw [hji, hself] at hj
        rw [hother hki] at hk
        exact absurd hj (hnew hki hk)
    · rw [hother hji] at hj
      by_cases hki : k = i
      · rw [hki, hself] at hk
        exact absurd hk (hnew hji hj)
      · rw [hother hki] at hk
        exact h.apart j k n hj hk
  · show ∃ j, (s.assign i τ j).ticket = some n
    rcases heffect.drawn n hn with hold | ⟨rfl, hne⟩
    · obtain ⟨j, hj⟩ := h.owned n hold
      by_cases hji : j = i
      · rw [hji] at hj
        refine ⟨i, ?_⟩
        rw [hself, hticket, if_pos]
        · exact hj
        · exact Decidable.byContradiction fun hne => heffect.fresh hne n hj hold
      · refine ⟨j, ?_⟩
        rw [hother hji]
        exact hj
    · refine ⟨i, ?_⟩
      rw [hself, hticket, if_neg hne]

omit [DecidableEq ι] in
/-- Changes that spare the lock and the connection keep the invariant. -/
theorem passed (h : Inv d s) {w : World} (hlock : w.lock = s.world.lock)
    (hconnection : w.connection = s.world.connection) : Inv d { s with world := w } := by
  have heffect : Effect none s.world w := effect_spares h.sound hlock hconnection
  refine ⟨heffect.sound, fun i => ?_, fun i n hn => ?_, h.apart, fun n hn => ?_, ?_⟩
  · exact (h.inOrder i).frame h.sound heffect (h.drawn i) fun n _ hnone => by cases hnone
  · show n < w.lock.nextTicket
    rw [hlock]
    exact h.drawn i n hn
  · have hn : n ∈ w.lock.tickets := hn
    rw [hlock] at hn
    exact h.owned n hn
  · show s.connected = s.released + w.connection.toList.length
    rw [hconnection]
    exact h.balance

omit [DecidableEq ι] in
/-- A task at an operation stands in a position. -/
theorem position (h : Inv d s) {i : ι} {op : Operation} {rest : Work Answer}
    (hrest : (s.task i).rest = some (op, rest)) :
    ∃ p : Position, rest = p.work d ∧ p.isClose = op.isClose ∧ p.Fits d (s.task i) s.world := by
  cases h.inOrder i with
  | idle hnone _ _ =>
    rw [hnone] at hrest
    cases hrest
  | busy op' p hbusy hop hfits =>
    rw [hbusy] at hrest
    cases hrest
    exact ⟨p, rfl, hop, hfits⟩

/-- Every step keeps the invariant. -/
theorem step (hconnector : d.connector.Spares) (h : Inv d s) (hstep : Step d s e s') : Inv d s' := by
  have hspares (i : ι) : Effect (s.task i).ticket s.world s.world := effect_spares h.sound rfl rfl
  cases hstep with
  | passed hlock hconnection => exact h.passed hlock hconnection
  | @began i op hnone =>
    refine h.assign (hspares i) ?_ (by rw [if_pos rfl]; rfl) h.balance
    cases h.inOrder i with
    | busy op' p hbusy _ _ =>
      rw [hbusy] at hnone
      cases hnone
    | idle _ hclaim _ =>
      refine .busy op (.first op) ?_ (Position.isClose_first op) ?_
      · rw [Position.work_first]
        rfl
      · cases op with
        | get span => exact ⟨hclaim, rfl⟩
        | close => exact ⟨hclaim, rfl⟩
  | @acted i op f next hrest =>
    obtain ⟨p, hwork, hop, hfits⟩ := h.position hrest
    obtain ⟨rfl, hnext⟩ := Position.work_act hwork.symm
    refine h.assign (Position.effect_change hfits h.sound) ?_ rfl ?_
    · refine .busy op (p.next d s.world) ?_ ((Position.isClose_next s.world p).trans hop) ?_
      · rw [← hnext]
        rfl
      · exact Position.fits_acted hconnector hfits h.sound hwork.symm
    · have hbalance := Position.balance_change hfits hop
      have hcount := h.balance
      omega
  | @woke i op g drop next hrest hholds =>
    obtain ⟨p, hwork, hop, hfits⟩ := h.position hrest
    obtain ⟨hwaits, hnext⟩ := Position.work_wait hwork.symm
    refine h.assign (hspares i) ?_ (by rw [if_pos rfl]; rfl) h.balance
    refine .busy op (p.next d s.world) ?_ ((Position.isClose_next s.world p).trans hop) ?_
    · rw [← hnext]
      rfl
    · exact Position.fits_woken hfits h.sound hwaits hholds
  | @dropped i op g drop next hrest =>
    obtain ⟨p, hwork, hop, hfits⟩ := h.position hrest
    obtain ⟨hwaits, -⟩ := Position.work_wait hwork.symm
    obtain ⟨horder, heffect, hconnection, hticket⟩ := Position.inOrder_dropped hfits h.sound hwaits
    refine h.assign heffect horder (by rw [if_pos hticket]; rfl) ?_
    rw [hconnection]
    exact h.balance
  | @answered i op a hrest =>
    obtain ⟨p, hwork, hop, hfits⟩ := h.position hrest
    refine h.assign (hspares i) ?_ (by rw [if_pos rfl]; rfl) h.balance
    rcases Position.work_done hwork.symm with ⟨r, rfl, -⟩ | ⟨rfl, -⟩
    · exact .idle rfl hfits.claim hfits.expects.1.not_inFlight
    · refine .idle rfl hfits.claim ?_
      rintro ⟨q, hq⟩
      rw [show (s.task i).answered.dial = .none from hfits.expects] at hq
      cases hq

end Inv

/-- Every reachable pool satisfies the invariant. -/
theorem Reachable.inv (hconnector : d.connector.Spares) {s : Pool ι} (h : Reachable d s) : Inv d s := by
  induction h with
  | start hlock hconnection => exact .start hlock hconnection
  | step _ hstep ih => exact ih.step hconnector hstep

end CallChain.Dialer
