import CallChain.Proofs.Connection.Undisturbed
import CallChain.Proofs.Exchange.Course

/-!
# Panics of the exchange

Four things that a call runs are not the library's: the resolver, the processor, the dial and the sending of
the request.  `Panics` lists the panics of each, with the world a panic leaves behind, and
`ends_run_panic_iff` says that an exchange panics in no other way.  `Panics.leaves` says what becomes of the
connection and its lock.
-/

set_option autoImplicit false

namespace CallChain

/-- Work within a limit spares what the work spares. -/
theorem Attempt.spares_within {α : Type} {t : Attempt α} (ht : t.run.Spares) (limit : Option Duration) :
    (Attempt.within limit t).run.Spares := by
  cases limit with
  | none =>
    refine Work.Spares.bind ht fun r => ?_
    cases r <;> exact trivial
  | some d =>
    have hwithin : (Work.within d t.run).Spares := ⟨fun _ => ⟨rfl, rfl⟩, fun _ => ht.limitedTo⟩
    exact hwithin.bind fun _ => trivial

namespace Exchange

open Call (Ends)

variable {ρ : Type} {R : Resumption} {ctx : CallContext} {i : Invocation ρ} {w w' : World} {p : Panic}

/-- Where a panic can be raised. -/
inductive Source where
  | resolver
  | processor
  | dial
  | send
  deriving DecidableEq

/-- The panics of an exchange. -/
inductive Panics (R : Resumption) (ctx : CallContext) (i : Invocation ρ) (w : World) :
    Source → Panic → World → Prop where
  | resolver {p : Panic} {w₁ : World} :
      resolver i w = (.error p, w₁) → Panics R ctx i w .resolver p w₁
  | processor {plain url : String} {p : Panic} {w₁ w₂ : World} :
      resolver i w = (.ok (.ok plain), w₁) → i.info.query.addTo plain = .ok url →
      processor i (draftOf i url (limitOf ctx i w₁)) w₁ = (.error p, w₂) →
      Panics R ctx i w .processor p w₂
  | dial {q : Prepared} {p : Panic} {w₁ w₂ : World} :
      Readied ctx i w q w₁ → Work.Ends R (taking ctx i).run w₁ (.error p) w₂ →
      Panics R ctx i w .dial p w₂
  | send {q : Prepared} {c : ConnectionId} {p : Panic} {w₁ w₂ w₃ : World} :
      Readied ctx i w q w₁ → Work.Ends R (taking ctx i).run w₁ (.ok (some (.ok c))) w₂ →
      ctx.isSignalled w₂ = false →
      Work.Ends R (sending ctx i.client.connector c q w₂.nextPlace) w₂.takePlace (some (.error p)) w₃ →
      Panics R ctx i w .send p w₃

/-- A fetch that panics does so in one of the four. -/
theorem ends_fetch_panic_iff {j : Invocation ρ} {v : World} :
    Ends R (fetch ctx).run i w ⟨.error p, j, v⟩ ↔
      j = i ∧ ∃ s w', Panics R ctx i w s p w' ∧ w'.quiet = v := by
  rw [ends_fetch_iff_course]
  constructor
  · rintro ⟨t, h⟩
    obtain rfl : j = i := h.invocation_eq
    refine ⟨rfl, ?_⟩
    generalize hd : (⟨.error p, j, v⟩ : Departure ρ CallResult) = d at h
    cases h with
    | @exit x w' hexit =>
      obtain ⟨ho, -, rfl⟩ := Departure.mk.inj hd
      obtain rfl : x = .error p := by
        cases x with
        | error q => rw [Except.error.inj ho]
        | ok e => cases ho
      cases hexit with
      | unready hunready =>
        cases hunready with
        | resolverPanic hresolver => exact ⟨_, _, .resolver hresolver, rfl⟩
        | processorPanic hresolver hquery hprocessor =>
          exact ⟨_, _, .processor hresolver hquery hprocessor, rfl⟩
      | dialPanic hready htaking => exact ⟨_, _, .dial hready htaking, rfl⟩
    | @sent q c r w₁ w₂ w₃ hready htaking hdone hsending =>
      obtain ⟨ho, -, rfl⟩ := Departure.mk.inj hd
      obtain rfl : r = some (.error p) := by
        obtain _ | q | _ | _ | _ := r
        · cases ho
        · rw [Except.error.inj ho]
        all_goals cases ho
      exact ⟨_, _, .send hready htaking hdone hsending, rfl⟩
  · rintro ⟨rfl, s, w', h, rfl⟩
    cases h with
    | resolver hresolver => exact ⟨none, .exit (.unready (.resolverPanic hresolver))⟩
    | processor hresolver hquery hprocessor =>
      exact ⟨none, .exit (.unready (.processorPanic hresolver hquery hprocessor))⟩
    | dial hready htaking => exact ⟨none, .exit (.dialPanic hready htaking)⟩
    | send hready htaking hdone hsending => exact ⟨_, .sent hready htaking hdone hsending⟩

/-- What an exchange makes of a response is no panic. -/
theorem ends_run_panic_iff [Reply ρ] {j : Invocation ρ} {v : World} :
    Ends R (run ctx) i w ⟨.error p, j, v⟩ ↔
      j = i ∧ ∃ s w', Panics R ctx i w s p w' ∧ w'.quiet = v := by
  rw [ends_run_iff, ← ends_fetch_panic_iff]
  constructor
  · rintro ⟨⟨q | f | response, i₁, v₁⟩, he, hd⟩
    · rw [hd]
      exact he
    · cases hd
    · have houtcome : ∃ r, (conclusion i.info.responseNotParse (.ok response) i₁ v₁).outcome = .ok r := by
        unfold conclusion handOut
        dsimp only
        split
        · exact ⟨_, rfl⟩
        · split <;> exact ⟨_, rfl⟩
      obtain ⟨r, hr⟩ := houtcome
      exact absurd ((congrArg Departure.outcome hd).trans hr) (by simp)
  · intro h
    exact ⟨_, h, rfl⟩

/-! ### What a panic leaves behind -/

/-- What a panic leaves of the connection and its lock.  After a panic in a dial there is no connection, and
nobody holds the lock or waits for it.  After one in sending, the connection is there over which the request
was sent: the one that was there before, if there was one. -/
def Source.Leaves (s : Source) (w w' : World) : Prop :=
  match s with
  | .resolver | .processor => w.Spared w'
  | .dial => w.connection = none ∧ w'.connection = none ∧ w'.lock.line = []
  | .send => w'.lock.line = w.lock.line ∧
      ∃ c, w'.connection = some c ∧ ∀ kept, w.connection = some kept → c = kept

theorem Source.Leaves.of_spared {s : Source} {w₁ v : World} (h : s.Leaves w₁ v) (hw : w.Spared w₁)
    (hv : v.Spared w') : s.Leaves w w' := by
  obtain ⟨hlock, hconnection⟩ := hw
  cases s with
  | resolver | processor => exact World.Spared.trans ⟨hlock, hconnection⟩ (World.Spared.trans h hv)
  | dial =>
    obtain ⟨hbefore, hnone, hline⟩ := h
    exact ⟨hconnection ▸ hbefore, hv.connection.trans hnone, hv.lock ▸ hline⟩
  | send =>
    obtain ⟨hline, c, hc, hkept⟩ := h
    refine ⟨?_, c, hv.connection.trans hc, fun kept h => hkept kept (hconnection.trans h)⟩
    rw [hv.lock, hline, hlock]

/-- What a race for the connection leaves behind when it is not lost to the context. -/
theorem taken_of_ends_taking {r : Dialer.GetResult} (hR : R.Undisturbed)
    (hconnector : i.client.connector.Spares) (hsound : w.lock.Sound)
    (h : Work.Ends R (taking ctx i).run w (r.map some) w') : Dialer.Taken w r w' := by
  obtain ⟨-, hlost, -⟩ | ⟨-, x, hx, ho⟩ := ends_unlessBefore_iff.mp h
  · obtain p | r := r <;> cases hlost
  · obtain rfl : x = some r := by
      obtain _ | p' | r' := x <;> obtain p | r := r <;> cases ho <;> rfl
    rw [Work.ends_interruptedBy_iff] at hx
    obtain ⟨hline, hconnection, hkept, hfree⟩ :=
      Dialer.taken_of_ends (hR.raced _) hconnector (w := w.takePlace) hsound hx
    exact ⟨hline, hconnection, hkept, hfree⟩

/-- Sending a request spares the lock and the connection, also when it is given up. -/
theorem spares_sending {k : Connector} (hsending : k.SparesSending) (ctx : CallContext)
    (c : ConnectionId) (q : Prepared) (place : Nat) : (sending ctx k c q place).Spares :=
  (Attempt.spares_within (hsending c q.request) q.limit).interruptedBy

theorem Panics.leaves {s : Source} (hR : R.Undisturbed) (hkeeps : i.info.Keeps World.Spared)
    (hconnector : i.client.connector.Spares) (hsending : i.client.connector.SparesSending)
    (hsound : w.lock.Sound) (h : Panics R ctx i w s p w') : s.Leaves w w' := by
  have hready {q : Prepared} {w₁ : World} (h : Readied ctx i w q w₁) : w.Spared w₁ :=
    h.keeps .refl (fun _ _ _ h h' => h.trans h') hkeeps
  cases h with
  | resolver hresolver => exact keeps_resolver .refl hkeeps hresolver
  | processor hresolver _ hprocessor =>
    exact (keeps_resolver .refl hkeeps hresolver).trans (keeps_processor .refl hkeeps hprocessor)
  | @dial q _ w₁ _ hq htaking =>
    have hspared := hready hq
    have htaken := taken_of_ends_taking (r := .error p) hR hconnector (hspared.lock ▸ hsound) htaking
    have hnone : w₁.connection = none :=
      Option.eq_none_iff_forall_ne_some.mpr fun c hc => by cases htaken.kept c hc
    have hleaves : Source.dial.Leaves w₁ w' := ⟨hnone, htaken.connection, htaken.free rfl⟩
    exact hleaves.of_spared hspared (.refl w')
  | @send q c _ w₁ w₂ _ hq htaking _ hsent =>
    have hspared := hready hq
    have htaken := taken_of_ends_taking (r := .ok (.ok c)) hR hconnector (hspared.lock ▸ hsound) htaking
    have hsent : w₂.takePlace.Spared w' :=
      (spares_sending hsending ctx c q w₂.nextPlace).of_ends hR hsent
    have hleaves : Source.send.Leaves w₁ w₂.takePlace := by
      refine ⟨htaken.line, c, htaken.connection, fun kept hkept => ?_⟩
      cases htaken.kept kept hkept
      rfl
    exact hleaves.of_spared hspared hsent

end Exchange

end CallChain
