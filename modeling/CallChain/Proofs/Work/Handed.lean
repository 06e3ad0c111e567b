import CallChain.Proofs.Work.Quiet
import CallChain.Proofs.Work.Trace

/-!
# When requests are handed over

`Work.handed` lists the requests that work hands over when it runs alone, each with the clock.  They are
the requests that the world has gained at the end (`requests_eq_handed`).  Work that begins with handing
over its request (`Work.HandsAtOnce`) still does so within a limit and in a race.
-/

set_option autoImplicit false

namespace CallChain

namespace Work

variable {α β : Type}

/-- The requests that work hands over when it runs alone, each with the clock at that moment. -/
def handed : Work α → World → List (Clock × TransportRequest)
  | .done _, _ => []
  | .act f next, w =>
    ((f w).requests.drop w.requests.length).map (w.clock, ·) ++ (next w).handed (f w)
  | .wait g _ next, w =>
    match w.settle g with
    | some w₁ => next.handed w₁
    | none => []

/-- Work followed by other work hands over what the one and then the other does. -/
theorem handed_bind (p : Work α) (k : α → Work β) (w : World) :
    (p.bind k).handed w =
      p.handed w ++ match p.run w with
        | some (a, w₁) => (k a).handed w₁
        | none => [] := by
  induction p generalizing w with
  | done a => rfl
  | act f next ih => simp only [bind, handed, run, ih, List.append_assoc]
  | wait g d next ih =>
    simp only [bind, handed, run]
    cases w.settle g with
    | none => rfl
    | some w₁ => exact ih w₁

/-- What is handed over is what the world has gained at the end. -/
theorem requests_eq_handed {P : List TransportRequest → α → Prop} {p : Work α} {w w' : World} {a : α}
    (hp : p.Traces World.requests P) (h : p.run w = some (a, w')) :
    w'.requests = w.requests ++ (p.handed w).map Prod.snd := by
  induction p generalizing w P with
  | done b =>
    cases h
    exact (List.append_nil _).symm
  | act f next ih =>
    obtain ⟨xs, hxs, hnext⟩ := hp w
    have hadded : (f w).requests.drop w.requests.length = xs := by rw [hxs, List.drop_left]
    rw [ih w hnext h, handed, hadded, hxs, List.map_append, List.map_map, List.append_assoc]
    congr 2
    exact (List.map_id _).symm
  | wait g d next ih =>
    rw [run] at h
    rw [handed]
    cases hs : w.settle g with
    | none =>
      rw [hs] at h
      cases h
    | some w₁ =>
      rw [hs] at h
      have hsame : w₁.requests = w.requests := by
        rw [World.settle_frame hs]
        rfl
      rw [← hsame]
      exact ih hp.2 h

/-- Waiting hands over nothing. -/
theorem requests_alone (g : Guard) (w w₁ : World) (h : alone g w w₁) :
    w₁.requests = w.requests := by
  rw [World.settle_frame h]
  rfl

/-- The work begins with handing over the request, and hands over nothing else. -/
inductive HandsAtOnce (q : TransportRequest) : Work α → Prop where
  | record {next : World → Work α} :
      (∀ w, (next w).Traces World.requests fun qs _ => qs = []) →
      HandsAtOnce q (.act (World.record (.handed q)) next)
  | act {f : World → World} {next : World → Work α} :
      (∀ w, (f w).requests = w.requests) → (∀ w, (f w).clock = w.clock) →
      (∀ w, HandsAtOnce q (next w)) → HandsAtOnce q (.act f next)

namespace Traces

variable {p : Work α} {stop limit : Guard}

/-- Work that hands over nothing does not do so when it is given up either. -/
theorem interruptedBy_silent (hp : p.Traces World.requests fun qs _ => qs = []) :
    (p.interruptedBy stop).Traces World.requests fun qs _ => qs = [] :=
  hp.interruptedBy_beginning.mono fun _ _ ⟨_, _, h⟩ => (List.append_eq_nil_iff.mp h).1

theorem limitedTo_silent (hp : p.Traces World.requests fun qs _ => qs = []) :
    (p.limitedTo limit).Traces World.requests fun qs _ => qs = [] :=
  hp.limitedTo_beginning.mono fun _ _ ⟨_, _, h⟩ => (List.append_eq_nil_iff.mp h).1

theorem bind_silent {k : α → Work β} (hp : p.Traces World.requests fun qs _ => qs = [])
    (hk : ∀ a, (k a).Traces World.requests fun qs _ => qs = []) :
    (p.bind k).Traces World.requests fun qs _ => qs = [] := by
  refine hp.bind fun qs a hqs => ?_
  subst hqs
  exact hk a

theorem handed_eq_nil (hp : p.Traces World.requests fun qs _ => qs = []) (w : World) :
    p.handed w = [] := by
  induction p generalizing w with
  | done a => rfl
  | act f next ih =>
    obtain ⟨qs, hqs, hnext⟩ := hp w
    obtain ⟨ys, a, hnil⟩ := hnext.exists_value
    obtain ⟨rfl, rfl⟩ := List.append_eq_nil_iff.mp hnil
    rw [handed, ih w hnext, hqs, List.append_nil, List.append_nil, List.drop_length]
    rfl
  | wait g d next ih =>
    rw [handed]
    cases w.settle g with
    | none => rfl
    | some w₁ => exact ih hp.2 w₁

end Traces

namespace HandsAtOnce

variable {q : TransportRequest} {p : Work α} {stop limit : Guard}

theorem bind {k : α → Work β} (h : p.HandsAtOnce q)
    (hk : ∀ a, (k a).Traces World.requests fun qs _ => qs = []) : (p.bind k).HandsAtOnce q := by
  induction h with
  | record hnext => exact .record fun w => (hnext w).bind_silent hk
  | act hrequests hclock _ ih => exact .act hrequests hclock ih

theorem interruptedBy (h : p.HandsAtOnce q) : (p.interruptedBy stop).HandsAtOnce q := by
  induction h with
  | record hnext => exact .record fun w => (hnext w).interruptedBy_silent
  | act hrequests hclock _ ih => exact .act hrequests hclock ih

theorem limitedTo (h : p.HandsAtOnce q) : (p.limitedTo limit).HandsAtOnce q := by
  induction h with
  | record hnext => exact .record fun w => (hnext w).limitedTo_silent
  | act hrequests hclock _ ih => exact .act hrequests hclock ih

theorem traces (h : p.HandsAtOnce q) : p.Traces World.requests fun qs _ => qs = [q] := by
  induction h with
  | record hnext =>
    refine fun w => ⟨[q], World.requests_record_handed q w, ?_⟩
    exact (hnext w).mono fun qs _ hqs => by rw [hqs]; rfl
  | act hrequests _ _ ih => exact Traces.unseen hrequests ih

/-- The request is handed over at the time at which the work begins. -/
theorem handed_eq (h : p.HandsAtOnce q) (w : World) : p.handed w = [(w.clock, q)] := by
  induction h generalizing w with
  | record hnext =>
    rw [handed, (hnext w).handed_eq_nil, World.requests_record_handed, List.drop_left]
    rfl
  | act hrequests hclock _ ih =>
    rw [handed, ih w, hrequests, List.drop_length, hclock]
    rfl

end HandsAtOnce

end Work

/-- A limit on work does not put off what the work hands over. -/
theorem Attempt.handsAtOnce_within {α : Type} {q : TransportRequest} {t : Attempt α}
    (h : t.run.HandsAtOnce q) (limit : Option Duration) : (within limit t).run.HandsAtOnce q := by
  cases limit with
  | none =>
    refine Work.HandsAtOnce.bind h fun r => ?_
    cases r <;> rfl
  | some l =>
    refine .act (fun _ => rfl) (fun _ => rfl) fun w => ?_
    exact Work.HandsAtOnce.bind h.limitedTo fun _ => rfl

end CallChain
