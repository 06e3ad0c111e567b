import CallChain.Proofs.Exchange.Timing
import CallChain.Proofs.Work.Handed

/-!
# When an exchange hands over its request

An exchange that comes to a transfer hands over the request of the transfer, once, and at the time at
which it has its connection.
-/

set_option autoImplicit false

namespace CallChain

namespace Work

variable {α β : Type} {w w₁ : World} {x : Clock × TransportRequest}

/-- What the first part hands over, the whole does. -/
theorem mem_handed_bind_left {p : Work α} (k : α → Work β) (h : x ∈ p.handed w) :
    x ∈ (p.bind k).handed w := by
  rw [handed_bind]
  exact List.mem_append_left _ h

/-- What the second part hands over, the whole does. -/
theorem mem_handed_bind_right {p : Work α} {a : α} {k : α → Work β} (hp : p.run w = some (a, w₁))
    (h : x ∈ (k a).handed w₁) : x ∈ (p.bind k).handed w := by
  rw [handed_bind, hp]
  exact List.mem_append_right _ h

end Work

namespace Exchange

open Call (Runs)

variable {ρ α β : Type} {ctx : CallContext} {i i₁ : Invocation ρ} {w w₁ w₂ : World}
  {x : Clock × TransportRequest}

theorem mem_handed_bind_left {s : Step ρ α} (k : α → Step ρ β)
    (h : x ∈ (s.run.run.run i).handed w) : x ∈ ((s >>= k).run.run.run i).handed w := by
  rw [work_bind]
  exact Work.mem_handed_bind_left _ h

theorem mem_handed_bind_right {s : Step ρ α} {k : α → Step ρ β} {a : α}
    (hs : Runs Work.alone s.run i w (.ok (.ok a)) i₁ w₁)
    (h : x ∈ ((k a).run.run.run i₁).handed w₁) : x ∈ ((s >>= k).run.run.run i).handed w := by
  rw [work_bind]
  exact Work.mem_handed_bind_right (Work.run_eq_some_iff.mpr hs) h

/-- A race that begins hands over what its work hands over at once. -/
theorem handed_unlessBefore {q : TransportRequest} {t : Attempt α} (hdone : ctx.isSignalled w = false)
    (h : t.run.HandsAtOnce q) :
    (w.clock, q) ∈ (Attempt.unlessBefore ctx.doneGuard t).run.handed w := by
  refine Work.mem_handed_bind_left _ ?_
  rw [Work.unlessBefore, Work.handed, ← CallContext.isSignalled, hdone]
  refine List.mem_append_right _ ?_
  show _ ∈ (t.run.interruptedBy _).handed w.takePlace
  rw [h.interruptedBy.handed_eq]
  exact List.mem_cons_self

theorem mem_handed_send {c : ConnectionId} {p : Prepared} (hdone : ctx.isSignalled w = false)
    (h : (i.client.connector.send c p.request).run.HandsAtOnce p.request) :
    (w.clock, p.request) ∈ ((send ctx c p : Step ρ RawResponse).run.run.run i).handed w := by
  refine mem_handed_bind_right (runs_get_iff.mpr ⟨rfl, rfl, rfl⟩) (mem_handed_bind_left _ ?_)
  rw [work_lift]
  refine Work.mem_handed_bind_left _ (Work.mem_handed_bind_left _ ?_)
  exact handed_unlessBefore hdone (Attempt.handsAtOnce_within h p.limit)

/-- A fetch hands over its request when it has the connection. -/
theorem mem_handed_fetch {c : ConnectionId} {p : Prepared} (hready : Readied ctx i w p w₁)
    (htaking : Work.Ends Work.alone (taking ctx i).run w₁ (.ok (some (.ok c))) w₂)
    (hdone : ctx.isSignalled w₂ = false)
    (h : (i.client.connector.send c p.request).run.HandsAtOnce p.request) :
    (w₂.clock, p.request) ∈ ((fetch ctx : Step ρ RawResponse).run.run.run i).handed w := by
  have hprepare := (certain_prepare_of_readied (R := Work.alone) hready _ i w₁).mpr ⟨rfl, rfl, rfl⟩
  have hconnect : Call.Runs Work.alone (connect ctx p.url).run i w₁ (.ok (.ok c)) i w₂ :=
    runs_connect_iff.mpr ⟨_, _, htaking, rfl, rfl, rfl⟩
  exact mem_handed_bind_right hprepare (mem_handed_bind_right hconnect (mem_handed_send hdone h))

variable [Reply ρ]

/-- An exchange hands over the request of its transfer and no other, when it has the connection. -/
theorem handed_run {t : Option Transfer} {e : Departure ρ CallResult} {T : Clock}
    (hw : Watches World.requests (fun q => [q]) i)
    (hhands : ∀ c q, (i.client.connector.send c q).run.HandsAtOnce q)
    (hcourse : Course Work.alone ctx i w t e)
    (hclock : ∀ p w₁ c w₂, Readied ctx i w p w₁ →
      Work.Ends Work.alone (taking ctx i).run w₁ (.ok (some (.ok c))) w₂ → w₂.clock = T) :
    ((run ctx : Call ρ CallResult).run.run i).handed w =
      (t.map fun t => (T, t.prepared.request)).toList := by
  obtain ⟨w', hw', hruns⟩ :=
    ends_run_iff.mpr ⟨e, ends_fetch_iff_course.mpr ⟨t, hcourse⟩, rfl⟩
  -- What is handed over in all is the request of the transfer at most.
  obtain ⟨qs, hqs, hprefix⟩ := hcourse.requests_eq hw Work.requests_alone
  have hrequests : w'.requests = w.requests ++ qs := by
    rw [← World.requests_quiet w', ← hqs, ← world_conclusion i.info.responseNotParse e]
    exact congrArg World.requests hw'
  have hhanded : (((run ctx : Call ρ CallResult).run.run i).handed w).map Prod.snd = qs :=
    List.append_cancel_left ((Work.requests_eq_handed (traces_run hw ctx)
      (Work.run_eq_some_iff.mpr hruns)).symm.trans hrequests)
  cases hcourse with
  | exit =>
    rw [List.prefix_nil.mp hprefix] at hhanded
    exact List.map_eq_nil_iff.mp hhanded
  | @sent p c r w₁ w₂ w₃ hready htaking hdone hsending =>
    -- The request is among what is handed over, which is one request at most.
    have hmem : (w₂.clock, p.request) ∈ ((run ctx : Call ρ CallResult).run.run i).handed w := by
      rw [work_run]
      exact mem_handed_bind_left _ (mem_handed_fetch hready htaking hdone (hhands c p.request))
    rw [hclock p w₁ c w₂ hready htaking] at hmem
    have hlength := hprefix.length_le
    rw [← hhanded, List.length_map] at hlength
    obtain ⟨y, hy⟩ := List.length_eq_one_iff.mp
      (Nat.le_antisymm hlength (List.length_pos_of_mem hmem))
    rw [hy, List.mem_singleton] at hmem
    rw [hy, ← hmem]
    rfl

end Exchange

end CallChain
