import CallChain.Proofs.Connection.Position
import CallChain.Proofs.Work.Clock

/-!
# How long it takes to get the connection

Nobody waits for an idle lock, so a connection that is kept is there at once, and one that has to be
dialed is there when the dial ends.
-/

set_option autoImplicit false

namespace CallChain.Dialer

open Position (work_dial work_dialUnlessKept)

variable {d : Dialer} {span : Option LogFields} {w : World}

/-- Looking for the connection takes no time and leaves everything as it was. -/
theorem timely_kept (hidle : w.lock.Idle) :
    ∃ w', kept.Timely w w.connection w' ∧ w.SameTime w' ∧ w'.lock.Idle ∧
      w'.connection = w.connection :=
  ⟨_, .holding hidle (.act ⟨rfl, rfl, rfl⟩ (.done _ _)), ⟨rfl, rfl, rfl⟩, hidle.giveBack false, rfl⟩

/-- A connection that is kept is there at once. -/
theorem timely_get_kept {c : ConnectionId} (hidle : w.lock.Idle) (hc : w.connection = some c) :
    ∃ w', (d.get span).run.Timely w (.ok (.ok c)) w' ∧ w'.ticks = w.ticks := by
  obtain ⟨w', hkept, hsame, -, -⟩ := timely_kept hidle
  rw [hc] at hkept
  exact ⟨w', Work.Timely.bind (hkept.bind (.done _ w')) (.done _ w'), hsame.ticks⟩

/-- What is left of a dial once the connector has answered takes no time. -/
theorem timely_conclude (d : Dialer) (span : Option LogFields) (x : DialResult) (w : World) :
    ∃ w', (d.conclude span x).Timely w (d.outcomeOf x) w' ∧ w'.ticks = w.ticks := by
  obtain p | e | c := x
  · exact ⟨w, .done _ w, rfl⟩
  · exact ⟨_, .act (.record _ w) (.done _ _), rfl⟩
  · exact ⟨_, .act ⟨rfl, rfl, rfl⟩ (.done _ _), rfl⟩

variable {n : Nat} {dialed : DialResult → Prop}

/-- A dial takes as long as the connector. -/
theorem timely_dial (span : Option LogFields)
    (hconnect : (d.connector.connect d.address d.tls).Takes n dialed) (hw : w.OnTick) :
    ∃ x w', (d.dial span).run.Timely w (d.outcomeOf x) w' ∧ w'.ticks = w.ticks + n ∧ dialed x := by
  obtain ⟨x, w₁, hx, hticks, hdialed⟩ := hconnect (w.record (.dialed d.address d.tls.mode)) hw
  obtain ⟨w', hconclude, hticks'⟩ := timely_conclude d span x w₁
  refine ⟨x, w', ?_, hticks'.trans hticks, hdialed⟩
  rw [work_dial]
  exact .act (.record _ w) (hx.bind hconclude)

theorem timely_lookOrDial {r : GetResult} {w' : World} (hc : w.connection = none)
    (h : (d.dial span).run.Timely w r w') : (d.lookOrDial span).Timely w r w' := by
  refine .act (.refl w) ?_
  rw [hc]
  exact h

/-- A connection that has to be dialed is there when the dial ends. -/
theorem timely_get_dialed (hw : w.OnTick) (hidle : w.lock.Idle) (hc : w.connection = none)
    (hconnect : (d.connector.connect d.address d.tls).Takes n dialed) :
    ∃ x w', (d.get span).run.Timely w (d.outcomeOf x) w' ∧ w'.ticks = w.ticks + n ∧ dialed x := by
  obtain ⟨w₁, hkept, hsame, hidle₁, hc₁⟩ := timely_kept hidle
  rw [hc] at hkept hc₁
  obtain ⟨x, w₂, hdial, hticks, hdialed⟩ :=
    timely_dial (w := { w₁ with lock := w₁.lock.request true }) span hconnect (hsame.onTick hw)
  have hlook := timely_lookOrDial (w := { w₁ with lock := w₁.lock.request true }) hc₁ hdial
  have hdialUnlessKept := hlook.holding hidle₁
  rw [← work_dialUnlessKept] at hdialUnlessKept
  refine ⟨x, _, Work.Timely.bind (hkept.bind (.done _ w₁)) hdialUnlessKept, ?_, hdialed⟩
  rw [← hsame.ticks]
  exact hticks

/-- How many ticks the connection takes when a dial takes the given number. -/
def waitFor (w : World) (n : Nat) : Nat := if w.connection.isSome then 0 else n

/-- What taking the connection can come to: the connection that is kept, or what a dial makes of one of
the given results. -/
def Gets (d : Dialer) (w : World) (dialed : DialResult → Prop) (r : GetResult) : Prop :=
  match w.connection with
  | some c => r = .ok (.ok c)
  | none => ∃ x, dialed x ∧ r = d.outcomeOf x

/-- How long the connection takes can be told beforehand, as long as it stays what it is. -/
theorem timely_get (span : Option LogFields) {w₀ : World} (hw : w.OnTick) (hidle : w.lock.Idle)
    (hsame : w.connection = w₀.connection)
    (hconnect : (d.connector.connect d.address d.tls).Takes n dialed) :
    ∃ r w', (d.get span).run.Timely w r w' ∧ w'.ticks = w.ticks + waitFor w₀ n ∧
      d.Gets w₀ dialed r := by
  unfold waitFor Gets
  rw [← hsame]
  cases hc : w.connection with
  | some c =>
    obtain ⟨w', h, hticks⟩ := timely_get_kept hidle hc
    exact ⟨_, w', h, hticks, rfl⟩
  | none =>
    obtain ⟨x, w', h, hticks, hx⟩ := timely_get_dialed hw hidle hc hconnect
    exact ⟨_, w', h, hticks, x, hx, rfl⟩

end CallChain.Dialer
