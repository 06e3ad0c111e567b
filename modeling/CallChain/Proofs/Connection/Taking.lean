import CallChain.Proofs.Connection.Undisturbed
import CallChain.Proofs.Work.Drop

/-!
# What taking the connection can come to

The connection is taken from where it is kept or from a dial.  So it comes with a fault only if the connector
failed, and what is done at once on the way, but for the connector, touches the lock, the connection and the
journal only.
-/

set_option autoImplicit false

namespace CallChain.Dialer

variable {d : Dialer} {span : Option LogFields} {R : Resumption} {w w' : World}

/-- The fault of a dial that failed. -/
def failure (d : Dialer) (e : TransportError) : Fault :=
  Fault.wrapCause d.codes (d.codes.site .dialFails) Codes.clientGenerate (.other e.message)

/-- A connection that cannot be taken is one that the connector failed to make. -/
theorem exists_failure_of_ends_get {f : Fault}
    (h : Work.Ends R (d.get span).run w (.ok (.error f)) w') :
    ∃ e v v', Work.Ends R (d.connector.connect d.address d.tls).run v (.ok (.error e)) v' ∧
      f = d.failure e := by
  rw [work_get, Work.ends_bind_iff] at h
  obtain ⟨_ | c, w₁, -, h⟩ := h
  · rw [Option.elim_none, Position.work_dialUnlessKept, ends_holding_iff] at h
    obtain ⟨w₂, w₃, -, h, -⟩ := h
    rw [lookOrDial, Work.ends_act_iff] at h
    split at h
    next c _ => cases h
    next =>
      rw [Position.work_dial, Work.ends_act_iff, Work.ends_bind_iff] at h
      obtain ⟨p | e | c, v, hconnect, h⟩ := h
      · cases h
      · rw [conclude, Work.ends_act_iff, Work.ends_done_iff] at h
        exact ⟨e, _, v, hconnect, Except.error.inj (Except.ok.inj h.1)⟩
      · rw [conclude, Work.ends_act_iff, Work.ends_done_iff] at h
        cases h.1
  · cases h

/-- Taking the connection keeps at once what the connector keeps, if that does not depend on the lock, the
connection or the journal. -/
theorem keeps_get {P : World → Prop}
    (hP : ∀ v v', v'.clock = v.clock → v'.cancelled = v.cancelled → P v → P v')
    (hconnect : (d.connector.connect d.address d.tls).run.Keeps P) (span : Option LogFields) :
    (d.get span).run.Keeps P := by
  have hrelease (n : Nat) (v : World) : P v → P (release n v) := hP v _ rfl rfl
  have hholding {α : Type} {writing : Bool} {p : Work α} (hp : p.Keeps P) :
      (Work.holding writing p).Keeps P :=
    fun v => ⟨hP v _ rfl rfl, hp.guarded (hrelease v.lock.nextTicket)⟩
  have hkept : kept.Keeps P := hholding fun v => ⟨hP v _ rfl rfl, trivial⟩
  rw [work_get]
  refine hkept.bind fun found => ?_
  cases found with
  | some c => exact trivial
  | none =>
    rw [Option.elim_none, Position.work_dialUnlessKept]
    refine hholding fun v => ⟨id, ?_⟩
    dsimp only
    cases v.connection with
    | some c => exact trivial
    | none =>
      dsimp only
      rw [Position.work_dial]
      refine fun v => ⟨hP v _ rfl rfl, hconnect.bind fun r => ?_⟩
      obtain p | e | c := r
      · exact trivial
      · exact fun v => ⟨hP v _ rfl rfl, trivial⟩
      · exact fun v => ⟨hP v _ rfl rfl, trivial⟩

end CallChain.Dialer
