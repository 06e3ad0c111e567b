import CallChain.Proofs.Connection.Safety
import CallChain.Proofs.Work.Race

/-!
# What taking the connection leaves behind

A task that takes the connection while nobody disturbs it leaves the line at the lock as it found it,
however it ends.  Afterwards there is the connection that it was told of, and none if its dial failed or
panicked; in that case it had the lock for writing, so nobody is left who holds or wants it.
`Inv.of_dial_panic` says of a panic in a dial what holds of it among other tasks.
-/

set_option autoImplicit false

namespace CallChain

namespace Lock

variable {l : Lock}

/-- A ticket that is drawn and given back leaves the line as it was. -/
theorem line_giveBack_request (h : l.Sound) (writing : Bool) :
    ((l.request writing).giveBack l.nextTicket).line = l.line := by
  have hothers : l.line.filter (fun q => q.1 != l.nextTicket) = l.line := by
    refine List.filter_eq_self.mpr fun q hq => ?_
    have hlt := h.drawn q.1 (List.mem_map_of_mem hq)
    simpa using Nat.ne_of_lt hlt
  rw [line_giveBack (sound_request h writing), line_request h, List.filter_append, hothers]
  simp

/-- A new request to write is granted at once only if nobody holds or wants the lock. -/
theorem line_eq_nil_of_isGranted (h : l.Sound)
    (hgranted : (l.request true).isGranted l.nextTicket = true) : l.line = [] := by
  have hsound := sound_request h true
  have hline := line_request h true
  have hwriter := writer_of_isGranted hsound
    (by rw [hline]; exact List.mem_append_right _ List.mem_cons_self) hgranted
  have hreaders : (l.request true).readers = [] := by
    refine hsound.exclusive.resolve_left fun hnone => ?_
    rw [hnone] at hwriter
    cases hwriter
  -- The writer stands first in the line, and its ticket is the last one drawn.
  have hfirst : (l.request true).line = (l.nextTicket, true) :: (l.request true).queue := by
    unfold line
    rw [hreaders, hwriter]
    rfl
  cases hold : l.line with
  | nil => rfl
  | cons q rest =>
    rw [hold, hfirst] at hline
    obtain rfl : (l.nextTicket, true) = q := (List.cons.inj hline).1
    have hdrawn := h.drawn l.nextTicket (List.mem_map_of_mem (f := Prod.fst)
      (hold ▸ List.mem_cons_self))
    exact absurd hdrawn (Nat.lt_irrefl _)

end Lock

/-- A connector whose requests spare the lock and the connection, too. -/
def Connector.SparesSending (k : Connector) : Prop := ∀ c q, (k.send c q).run.Spares

namespace Dialer

variable {d : Dialer} {span : Option LogFields} {R : Resumption} {w w' : World} {r : GetResult}

/-- What taking the connection leaves behind. -/
structure Taken (w : World) (r : GetResult) (w' : World) : Prop where
  line : w'.lock.line = w.lock.line
  connection : w'.connection = kept? r
  /-- A connection that is there is the one that is taken. -/
  kept : ∀ c, w.connection = some c → r = .ok (.ok c)
  /-- After a dial without a connection, nobody holds the lock or waits for it. -/
  free : kept? r = none → w'.lock.line = []

/-- Work under the lock draws a ticket, waits for it and gives it back. -/
theorem ends_holding_iff {α : Type} {writing : Bool} {p : Work α} {a : α} :
    Work.Ends R (Work.holding writing p) w a w' ↔
      ∃ w₁ w₂, R (.granted w.lock.nextTicket) (demand writing w) w₁ ∧ Work.Ends R p w₁ a w₂ ∧
        w' = release w.lock.nextTicket w₂ := by
  unfold Work.holding
  rw [Work.ends_act_iff, Work.ends_wait_iff]
  refine exists_congr fun w₁ => ?_
  simp only [Work.ends_guarded_iff]
  constructor
  · rintro ⟨hr, w₂, h, rfl⟩
    exact ⟨w₂, hr, h, rfl⟩
  · rintro ⟨w₂, hr, h, rfl⟩
    exact ⟨hr, w₂, h, rfl⟩

/-- Looking for the connection finds what is there and changes nothing. -/
theorem ends_kept (hR : R.Undisturbed) (hsound : w.lock.Sound) {found : Option ConnectionId}
    (h : Work.Ends R kept w found w') :
    found = w.connection ∧ w'.connection = w.connection ∧ w'.lock.Sound ∧
      w'.lock.line = w.lock.line := by
  obtain ⟨w₁, w₂, hwait, hlook, rfl⟩ := ends_holding_iff.mp h
  obtain ⟨hlock, hconnection⟩ := hR.spares hwait
  rw [Work.modifyGet, Work.ends_act_iff, Work.ends_done_iff] at hlook
  obtain ⟨rfl, rfl⟩ := hlook
  refine ⟨hconnection, hconnection, ?_, ?_⟩
  · show (w₂.lock.giveBack w.lock.nextTicket).Sound
    rw [hlock]
    exact Lock.sound_giveBack (Lock.sound_request hsound false) _
  · show (w₂.lock.giveBack w.lock.nextTicket).line = w.lock.line
    rw [hlock]
    exact Lock.line_giveBack_request hsound false

/-- A dial keeps the connection it makes, and leaves the lock alone. -/
theorem ends_dial (hR : R.Undisturbed) (hconnector : d.connector.Spares) (hnone : w.connection = none)
    (h : Work.Ends R (d.dial span).run w r w') : w'.lock = w.lock ∧ w'.connection = kept? r := by
  rw [Position.work_dial, Work.ends_act_iff, Work.ends_bind_iff] at h
  obtain ⟨x, v, hconnect, hconclude⟩ := h
  obtain ⟨hlock, hconnection⟩ := (hconnector d.address d.tls).of_ends hR hconnect
  obtain p | e | c := x
  · obtain ⟨rfl, rfl⟩ := Work.ends_done_iff.mp hconclude
    exact ⟨hlock, hconnection.trans hnone⟩
  · rw [conclude, Work.ends_act_iff, Work.ends_done_iff] at hconclude
    obtain ⟨rfl, rfl⟩ := hconclude
    exact ⟨hlock, hconnection.trans hnone⟩
  · rw [conclude, Work.ends_act_iff, Work.ends_done_iff] at hconclude
    obtain ⟨rfl, rfl⟩ := hconclude
    exact ⟨hlock, rfl⟩

/-- A task that has to dial had the lock for itself. -/
theorem ends_dialUnlessKept (hR : R.Undisturbed) (hconnector : d.connector.Spares)
    (hsound : w.lock.Sound) (hnone : w.connection = none)
    (h : Work.Ends R (d.dialUnlessKept span).run w r w') :
    w.lock.line = [] ∧ w'.lock.line = [] ∧ w'.connection = kept? r := by
  rw [Position.work_dialUnlessKept, ends_holding_iff] at h
  obtain ⟨w₁, w₂, hwait, hlook, rfl⟩ := h
  obtain ⟨hlock, hconnection⟩ := hR.spares hwait
  have hconnection₁ : w₁.connection = none := hconnection.trans hnone
  have hgranted : w₁.lock.isGranted w.lock.nextTicket = true := hR.heeds hwait
  rw [hlock] at hgranted
  have hfree : w.lock.line = [] := Lock.line_eq_nil_of_isGranted hsound hgranted
  rw [lookOrDial, Work.ends_act_iff, hconnection₁] at hlook
  obtain ⟨hlock₂, hconnection₂⟩ := ends_dial hR hconnector hconnection₁ hlook
  refine ⟨hfree, ?_, hconnection₂⟩
  show (w₂.lock.giveBack w.lock.nextTicket).line = []
  rw [hlock₂, hlock]
  exact (Lock.line_giveBack_request hsound true).trans hfree

/-- Taking the connection looks for one and dials if there is none. -/
theorem work_get (d : Dialer) (span : Option LogFields) :
    (d.get span).run = kept.bind fun found =>
      found.elim (d.dialUnlessKept span).run fun c => .done (.ok (.ok c)) := by
  show (kept.bind _).bind _ = _
  rw [Work.bind_bind]
  refine congrArg (Work.bind kept) (funext fun found => ?_)
  cases found <;> rfl

theorem taken_of_ends (hR : R.Undisturbed) (hconnector : d.connector.Spares) (hsound : w.lock.Sound)
    (h : Work.Ends R (d.get span).run w r w') : Taken w r w' := by
  rw [work_get, Work.ends_bind_iff] at h
  obtain ⟨found, w₁, hkept, hrest⟩ := h
  obtain ⟨rfl, hconnection, hsound₁, hline⟩ := ends_kept hR hsound hkept
  cases hc : w.connection with
  | some c =>
    rw [hc] at hrest hconnection
    obtain ⟨rfl, rfl⟩ := Work.ends_done_iff.mp hrest
    refine ⟨hline, hconnection, fun c' hc' => ?_, fun h => by cases h⟩
    cases hc.symm.trans hc'
    rfl
  | none =>
    rw [hc] at hrest hconnection
    obtain ⟨hfree, hfree', hkept⟩ := ends_dialUnlessKept hR hconnector hsound₁ hconnection hrest
    refine ⟨?_, hkept, fun c' hc' => ?_, fun _ => hfree'⟩
    · rw [hfree', ← hline, hfree]
    · rw [hc] at hc'
      cases hc'

/-- Among other tasks, a dial that panics leaves no connection and no ticket of its task behind. -/
theorem Inv.of_dial_panic {ι : Type} [DecidableEq ι] (hconnector : d.connector.Spares)
    {s s' : Pool ι} {i : ι} (h : Inv d s) (hstep : Step d s (.acted i) s') {p : Panic}
    (hdial : (s.task i).dial = .inFlight (.done (.error p))) :
    s'.world.connection = none ∧ Claim.none.Met s'.world.lock (s'.task i).ticket := by
  constructor
  · rcases h.connection_of_ends hstep hdial with ⟨c, hc⟩ | hnone
    · cases hc
    · exact hnone
  · have h' := h.step hconnector hstep
    obtain ⟨op, span, n, hrest, -⟩ := h.of_inFlight hdial
    cases hstep with
    | @acted _ op' f next hacts =>
      rw [hrest] at hacts
      obtain ⟨rfl, hwork⟩ := Prod.mk.inj (Option.some.inj hacts)
      obtain ⟨-, hnext⟩ := Position.work_act hwork
      have hanswer : (s.assign i ((s.task i).acted d op f next s.world) i).rest =
          some (op, .done (.got (.error p))) := by
        rw [assign_self]
        exact congrArg (fun rest => some (op, rest)) (hnext s.world)
      exact h'.not_mem_of_done hanswer

end Dialer

end CallChain
