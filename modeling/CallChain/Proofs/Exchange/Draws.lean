import CallChain.Proofs.Exchange.Course
import CallChain.Proofs.Work.Handed
import CallChain.Stages.RequestId
import CallChain.Transport.Scripted

/-!
# Exchanges draw no request ids

Request ids are drawn by stages.  An exchange leaves the ids that were drawn as they are, provided that the
closures of the caller and the connector do, and whoever runs while it waits.

Where ids come from is left open.  A source is sound up to a number if its ids up to there have the form
of random UUIDs and are all different (`RequestId.Sound`), as those of a source that counts are.
-/

set_option autoImplicit false

namespace CallChain

/-! ### Sources of ids -/

namespace RequestId

/-- A source whose ids up to a number have the form of random UUIDs, none of them twice. -/
structure Sound (source : Nat → String) (n : Nat) : Prop where
  shaped : ∀ m ≤ n, hasForm (source m) = true
  distinct : ∀ l ≤ n, ∀ m ≤ n, source l = source m → l = m

def valueOf (digits : List Char) : Nat :=
  digits.foldl (fun n c => 16 * n + "0123456789abcdef".toList.idxOf c) 0

theorem valueOf_concat (digits : List Char) (c : Char) :
    valueOf (digits ++ [c]) = 16 * valueOf digits + "0123456789abcdef".toList.idxOf c := by
  rw [valueOf, List.foldl_append]
  rfl

theorem idxOf_digitChar :
    ∀ n < 16, "0123456789abcdef".toList.idxOf (Nat.digitChar n) = n := by
  decide

theorem valueOf_toDigits (n : Nat) : valueOf (Nat.toDigits 16 n) = n := by
  induction n using Nat.strongRecOn with
  | _ n ih =>
    by_cases h : n < 16
    · rw [Nat.toDigits_of_lt_base h]
      exact (Nat.zero_add _).trans (idxOf_digitChar n h)
    · have hdigits : Nat.toDigits 16 n = Nat.toDigits 16 (n / 16) ++ [Nat.digitChar (n % 16)] := by
        rw [← Nat.toDigits_of_lt_base (Nat.mod_lt n (by omega)),
          Nat.toDigits_append_toDigits (by omega) (by omega) (by omega), Nat.div_add_mod]
      rw [hdigits, valueOf_concat, ih (n / 16) (by omega), idxOf_digitChar _ (Nat.mod_lt n (by omega)),
        Nat.div_add_mod]

theorem valueOf_padded (k : Nat) (digits : List Char) :
    valueOf (List.replicate k '0' ++ digits) = valueOf digits := by
  induction k with
  | zero => rfl
  | succ k ih =>
    rw [List.replicate_succ, List.cons_append]
    exact ih

/-- The last part of an id: the digits of its number, filled up with zeros. -/
def lastPart (n : Nat) : List Char :=
  List.replicate (12 - (Nat.toDigits 16 n).length) '0' ++ Nat.toDigits 16 n

theorem toList_ofNumber (n : Nat) :
    (ofNumber n).toList = "00000000-0000-4000-8000-".toList ++ lastPart n := by
  have hid : ofNumber n = "00000000-0000-4000-8000-" ++ String.ofList (lastPart n) := rfl
  generalize "00000000-0000-4000-8000-" = start at hid ⊢
  rw [hid, String.toList_append, String.toList_ofList]

theorem isDigit_of_mem_lastPart {n : Nat} {c : Char} (h : c ∈ lastPart n) : isDigit c = true := by
  have hdigit : ∀ k < 16, isDigit (Nat.digitChar k) = true := by decide
  rcases List.mem_append.mp h with hzero | hc
  · rw [List.eq_of_mem_replicate hzero]
    rfl
  · clear h
    induction n using Nat.strongRecOn generalizing c with
    | _ n ih =>
      rw [Nat.toDigits_eq_if (by decide)] at hc
      split at hc
      next h =>
        rw [List.mem_singleton.mp hc]
        exact hdigit n h
      next h =>
        rcases List.mem_append.mp hc with hrest | hlast
        · exact ih (n / 16) (by omega) hrest
        · rw [List.mem_singleton.mp hlast]
          exact hdigit _ (Nat.mod_lt n (by decide))

/-- An id has the form of a random UUID, as long as there is room for the digits of its number. -/
theorem hasForm_ofNumber {n : Nat} (h : n < Nat.pow 16 12) : hasForm (ofNumber n) = true := by
  have hlength : (lastPart n).length = 12 := by
    have hroom := (Nat.length_toDigits_le_iff (b := 16) (k := 12) (by decide) (by decide)).mpr h
    rw [lastPart, List.length_append, List.length_replicate]
    omega
  have hdigits : (lastPart n).all isDigit = true :=
    List.all_eq_true.mpr fun _ hc => isDigit_of_mem_lastPart hc
  have hdash : '-' ∉ lastPart n := fun hmem => absurd (isDigit_of_mem_lastPart hmem) (by decide)
  have hid := toList_ofNumber n
  generalize lastPart n = digits at hid hlength hdigits hdash
  have hpieces : (ofNumber n).toList = List.intercalate ['-']
      ["00000000".toList, "0000".toList, "4000".toList, "8000".toList, digits] := by
    have hstart : "00000000-0000-4000-8000-".toList = List.intercalate ['-']
        ["00000000".toList, "0000".toList, "4000".toList, "8000".toList] ++ ['-'] := by decide
    rw [hid, hstart]
    simp only [List.intercalate, List.intersperse, List.flatten_cons, List.flatten_nil,
      List.append_assoc, List.append_nil]
  have hsplit : Text.splitAll '-' (ofNumber n).toList =
      ["00000000".toList, "0000".toList, "4000".toList, "8000".toList, digits] := by
    rw [hpieces]
    refine Text.splitAll_intercalate (List.cons_ne_nil _ _) ?_
    simp only [List.forall_mem_cons, List.not_mem_nil, false_implies, implies_true, and_true]
    exact ⟨by decide, by decide, by decide, by decide, hdash⟩
  unfold hasForm
  rw [hsplit]
  simp [hlength, hdigits]
  decide

theorem ofNumber_injective {m n : Nat} (h : ofNumber m = ofNumber n) : m = n := by
  have hdigits := toList_ofNumber m
  rw [h, toList_ofNumber n] at hdigits
  have hvalue := congrArg valueOf (List.append_cancel_left hdigits)
  -- The fill before the digits does not count, so the numbers can be read off.
  rw [lastPart, lastPart, valueOf_padded, valueOf_padded, valueOf_toDigits, valueOf_toDigits] at hvalue
  exact hvalue.symm

/-- A source that counts is sound as long as there is room for the digits. -/
theorem sound_ofNumber {n : Nat} (h : n < Nat.pow 16 12) : Sound ofNumber n where
  shaped _ hm := hasForm_ofNumber (Nat.lt_of_le_of_lt hm h)
  distinct _ _ _ _ := ofNumber_injective

end RequestId

/-! ### Exchanges draw none -/

/-- The ids that were drawn, in order. -/
def World.ids (w : World) : List String := (List.range w.idsDrawn).map w.idSource

theorem World.ids_congr {w w' : World} (hsource : w'.idSource = w.idSource)
    (hdrawn : w'.idsDrawn = w.idsDrawn) : w'.ids = w.ids := by
  rw [ids, hsource, hdrawn, ids]

theorem World.ids_succ {w w' : World} (hsource : w'.idSource = w.idSource)
    (hdrawn : w'.idsDrawn = w.idsDrawn + 1) : w'.ids = w.ids ++ [w.nextId] := by
  rw [ids, hsource, hdrawn, List.range_succ, List.map_append]
  rfl

/-- A sound source does not give an id again. -/
theorem World.nextId_not_mem_ids {w : World} (hsound : RequestId.Sound w.idSource w.idsDrawn) :
    w.nextId ∉ w.ids := by
  intro hmem
  obtain ⟨n, hn, hid⟩ := List.mem_map.mp hmem
  have hlt := List.mem_range.mp hn
  exact absurd (hsound.distinct n (Nat.le_of_lt hlt) w.idsDrawn (Nat.le_refl _) hid) (Nat.ne_of_lt hlt)

/-- Work that draws no id, also when it is given up. -/
def Work.DrawsNone {α : Type} (p : Work α) : Prop := p.Traces World.ids fun ids _ => ids = []

/-- A connector that draws no ids. -/
structure Connector.DrawsNone (k : Connector) : Prop where
  connect : ∀ address tls, (k.connect address tls).run.DrawsNone
  send : ∀ c q, (k.send c q).run.DrawsNone

namespace Work.DrawsNone

variable {α β : Type} {p : Work α}

theorem act {f : World → World} {next : World → Work α} (hf : ∀ w, (f w).ids = w.ids)
    (hnext : ∀ w, (next w).DrawsNone) : (Work.act f next).DrawsNone :=
  Traces.unseen hf hnext

theorem bind {k : α → Work β} (hp : p.DrawsNone) (hk : ∀ a, (k a).DrawsNone) :
    (p.bind k).DrawsNone := by
  refine Traces.bind hp fun ids a hids => ?_
  subst hids
  exact hk a

theorem attempt_bind {t : Attempt α} {k : α → Attempt β} (ht : t.run.DrawsNone)
    (hk : ∀ a, (k a).run.DrawsNone) : (t >>= k).run.DrawsNone := by
  refine DrawsNone.bind (p := t.run) ht fun r => ?_
  cases r with
  | ok a => exact hk a
  | error e => rfl

theorem lift (hp : p.DrawsNone) : (p : Attempt α).run.DrawsNone :=
  hp.bind fun _ => rfl

theorem holding {writing : Bool} (hp : p.DrawsNone) : (Work.holding writing p).DrawsNone :=
  act (fun _ => rfl) fun _ => ⟨fun _ => rfl, hp.guarded fun _ => rfl⟩

theorem interruptedBy {stop : Guard} (hp : p.DrawsNone) : (p.interruptedBy stop).DrawsNone :=
  hp.interruptedBy_beginning.mono fun _ _ ⟨_, _, h⟩ => (List.append_eq_nil_iff.mp h).1

theorem limitedTo {limit : Guard} (hp : p.DrawsNone) : (p.limitedTo limit).DrawsNone :=
  hp.limitedTo_beginning.mono fun _ _ ⟨_, _, h⟩ => (List.append_eq_nil_iff.mp h).1

theorem within {t : Attempt α} (ht : t.run.DrawsNone) (limit : Option Duration) :
    (Attempt.within limit t).run.DrawsNone := by
  cases limit with
  | none => exact attempt_bind ht fun _ => rfl
  | some d =>
    refine act (fun _ => rfl) fun w => ?_
    exact bind ht.limitedTo fun _ => rfl

theorem ids_eq {R : Resumption} {w w' : World} {a : α} (hp : p.DrawsNone)
    (hR : ∀ g w w₁, R g w w₁ → w₁.ids = w.ids) (h : Ends R p w a w') : w'.ids = w.ids := by
  obtain ⟨ids, hids, rfl⟩ := Traces.of_ends hR h hp
  rw [hids, List.append_nil]

end Work.DrawsNone

/-- A scripted remote side whose handler draws nothing. -/
theorem ScriptedRemote.drawsNone {r : ScriptedRemote} (h : ∀ q, (r.handler q).run.DrawsNone) :
    r.connector.DrawsNone := by
  have hpause (d : Option Duration) : (pause d).DrawsNone := by
    cases d with
    | none => rfl
    | some d => exact .act (fun _ => rfl) fun w => ⟨fun _ => rfl, rfl⟩
  refine ⟨fun address tls => ?_, fun c q => ?_⟩
  · refine Work.DrawsNone.attempt_bind (.lift (.act (fun _ => rfl) fun _ => rfl)) fun _ => ?_
    refine Work.DrawsNone.attempt_bind (.lift (hpause r.connectDelay)) fun _ => ?_
    cases r.failure with
    | some reason => rfl
    | none => exact .act (fun _ => rfl) fun _ => rfl
  · refine Work.DrawsNone.attempt_bind (.lift (.act (fun _ => rfl) fun _ => rfl)) fun _ => ?_
    exact Work.DrawsNone.attempt_bind (.lift (hpause r.sendDelay)) fun _ => h q

/-- Left to itself, work that waits draws nothing. -/
theorem World.ids_alone (g : Guard) (w w₁ : World) (h : Work.alone g w w₁) : w₁.ids = w.ids := by
  rw [World.settle_frame h]
  rfl

/-- Taking the connection draws nothing. -/
theorem Dialer.drawsNone_get {d : Dialer} (hconnector : d.connector.DrawsNone)
    (span : Option LogFields) : (d.get span).run.DrawsNone := by
  refine Work.DrawsNone.attempt_bind
    (Work.DrawsNone.lift (.holding (.act (fun _ => rfl) fun _ => rfl))) fun kept => ?_
  cases kept with
  | some c => rfl
  | none =>
    refine Work.DrawsNone.holding (Work.DrawsNone.attempt_bind
      (.lift (.act (fun _ => rfl) fun _ => rfl)) fun world => ?_)
    cases world.connection with
    | some c => rfl
    | none =>
      refine Work.DrawsNone.attempt_bind (.lift (.act (fun _ => rfl) fun _ => rfl)) fun _ => ?_
      refine Work.DrawsNone.attempt_bind (hconnector.connect _ _) fun r => ?_
      cases r with
      | ok c => exact Work.DrawsNone.attempt_bind (.lift (.act (fun _ => rfl) fun _ => rfl)) fun _ => rfl
      | error e =>
        exact Work.DrawsNone.attempt_bind (.lift (.act (fun _ => rfl) fun _ => rfl)) fun _ => rfl

namespace Exchange

variable {ρ : Type} {R : Resumption} {ctx : CallContext} {i : Invocation ρ} {w w' : World}

section

variable (hconnector : i.client.connector.DrawsNone) (hR : ∀ g w w₁, R g w w₁ → w₁.ids = w.ids)

include hconnector hR

theorem ids_taking {r : Except Panic (Option (Except Fault ConnectionId))}
    (h : Work.Ends R (taking ctx i).run w r w') : w'.ids = w.ids := by
  rcases ends_unlessBefore_iff.mp h with ⟨-, -, rfl⟩ | ⟨-, x, hx, -⟩
  · rfl
  · have hids := (Dialer.drawsNone_get hconnector ctx.span).interruptedBy.ids_eq hR hx
    exact hids

theorem ids_sending {c : ConnectionId} {p : Prepared} {place : Nat} {r : Race}
    (h : Work.Ends R (sending ctx i.client.connector c p place) w r w') : w'.ids = w.ids :=
  ((hconnector.send c p.request).within p.limit).interruptedBy.ids_eq hR h

/-- A fetch draws no id. -/
theorem Course.ids_eq (hkeeps : i.info.Keeps fun v v' => v'.ids = v.ids) {t : Option Transfer}
    {d : Departure ρ CallResult} (h : Course R ctx i w t d) : d.world.ids = w.ids := by
  have hready {p : Prepared} {v : World} (h : Readied ctx i w p v) : v.ids = w.ids :=
    h.keeps (r := fun v v' => v'.ids = v.ids) (fun _ => rfl) (fun _ _ _ huv hv => hv.trans huv) hkeeps
  cases h with
  | exit hexit =>
    cases hexit with
    | unready hunready =>
      have hids := hunready.keeps (r := fun v v' => v'.ids = v.ids) (fun _ => rfl)
        (fun _ _ _ huv hv => hv.trans huv) (fun _ _ => rfl) hkeeps
      exact hids
    | finished hreadied htaking | undialed hreadied htaking | dialPanic hreadied htaking
      | overtaken hreadied htaking =>
      exact (ids_taking hconnector hR htaking).trans (hready hreadied)
  | sent hreadied htaking _ hsending =>
    have htaken := ids_taking hconnector hR htaking
    exact (ids_sending hconnector hR hsending).trans (htaken.trans (hready hreadied))

end

end Exchange

end CallChain
