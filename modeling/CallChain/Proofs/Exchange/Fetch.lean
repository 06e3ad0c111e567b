import CallChain.Proofs.Chain.Passage
import CallChain.Proofs.Exchange.Outcome

/-!
# The exchange up to the response

An exchange fetches a response and then decodes it, unless its invocation says that decoding is put
off.  What is done to fetch it does not depend on that: `SameFor i j s s'` says that two parts of an
exchange do the same work for two invocations and leave both alone, and `sameFor_fetch` says it of
fetching for invocations that differ in this flag.  So an exchange that decodes and one that does not
are the same work with two different conclusions (`work_run_eq`).
-/

set_option autoImplicit false

namespace CallChain

/-- Two invocations of the same call whose options come to the same, but for the names of stages and
for putting decoding off. -/
structure Invocation.Sibling {ρ : Type} (i j : Invocation ρ) : Prop where
  rest : ∃ options, j = { i with options := options }
  info : ∃ flag stages, j.info = { i.info with responseNotParse := flag, stages := stages }

theorem Invocation.sibling_self {ρ : Type} (i : Invocation ρ) : i.Sibling i where
  rest := ⟨i.options, rfl⟩
  info := ⟨i.info.responseNotParse, i.info.stages, rfl⟩

theorem Invocation.sibling_push {ρ : Type} (i : Invocation ρ) :
    i.Sibling (i.push .responseNotParse) where
  rest := ⟨_, rfl⟩
  info := ⟨true, i.info.stages, by rw [info_push]; rfl⟩

namespace Exchange

open Call (Ends)

variable {ρ α β : Type} {i j : Invocation ρ} {ctx : CallContext}

/-- The work of a part of an exchange that leaves its invocation alone. -/
def leaving (i : Invocation ρ) (t : Work (Except Panic (Except CallFailure α))) :
    Work (Except Panic (Except CallFailure α) × Invocation ρ) :=
  t.bind fun o => .done (o, i)

/-- Two parts of an exchange that do the same work for two invocations, and leave them alone. -/
def SameFor (i j : Invocation ρ) (s s' : Step ρ α) : Prop :=
  ∃ t, s.run.run.run i = leaving i t ∧ s'.run.run.run j = leaving j t

namespace SameFor

variable {s s' : Step ρ α} {k l : α → Step ρ β}

theorem pure (a : α) : SameFor i j (Pure.pure a) (Pure.pure a) :=
  ⟨.done (.ok (.ok a)), rfl, rfl⟩

theorem throw (e : CallFailure) :
    SameFor i j (MonadExcept.throw e : Step ρ α) (MonadExcept.throw e) :=
  ⟨.done (.ok (.error e)), rfl, rfl⟩

theorem lift (t : Attempt α) : SameFor i j (Exchange.lift t) (Exchange.lift t) := by
  have hwork (i : Invocation ρ) : (Exchange.lift t : Step ρ α).run.run.run i =
      leaving i (t.run.bind fun r => .done (r.map Except.ok)) := by
    rw [work_lift, leaving, Work.bind_bind]
    rfl
  exact ⟨_, hwork i, hwork j⟩

theorem log {level : Level} {message : String} {fields : LogFields} :
    SameFor i j (Exchange.log ctx level message fields : Step ρ Unit)
      (Exchange.log ctx level message fields) :=
  lift (Work.log ctx.span level message fields)

/-- What follows a part of the exchange that leaves the invocation alone. -/
theorem work_leaving_bind {t : Work (Except Panic (Except CallFailure α))} {s : Step ρ α}
    (hs : s.run.run.run i = leaving i t) (k : α → Step ρ β) :
    (s >>= k).run.run.run i = t.bind fun o =>
      match o with
      | .ok (.ok a) => (k a).run.run.run i
      | .ok (.error e) => .done (.ok (.error e), i)
      | .error p => .done (.error p, i) := by
  rw [work_bind, hs, leaving, Work.bind_bind]
  congr 1
  funext o
  obtain p | e | a := o <;> rfl

theorem bind (hs : SameFor i j s s') (hk : ∀ a, SameFor i j (k a) (l a)) :
    SameFor i j (s >>= k) (s' >>= l) := by
  obtain ⟨t, hi, hj⟩ := hs
  obtain ⟨rest, hrest⟩ := Classical.skolem.mp hk
  refine ⟨t.bind fun o => match o with
    | .ok (.ok a) => rest a
    | .ok (.error e) => .done (.ok (.error e))
    | .error p => .done (.error p), ?_, ?_⟩
  · rw [work_leaving_bind hi, leaving, Work.bind_bind]
    congr 1
    funext o
    obtain p | e | a := o
    · rfl
    · rfl
    · exact (hrest a).1
  · rw [work_leaving_bind hj, leaving, Work.bind_bind]
    congr 1
    funext o
    obtain p | e | a := o
    · rfl
    · rfl
    · exact (hrest a).2

theorem get_bind {k l : Invocation ρ → Step ρ β} (hk : SameFor i j (k i) (l j)) :
    SameFor i j (get >>= k) (get >>= l) :=
  hk

end SameFor

theorem sameFor_ofAction (hcodes : i.codes = j.codes) (place : Place) (a : Action α) :
    SameFor i j (ofAction place a) (ofAction place a) := by
  refine SameFor.get_bind ?_
  rw [hcodes]
  refine (SameFor.lift _).bind fun r => ?_
  cases r with
  | ok b => exact SameFor.pure _
  | error f => exact SameFor.pure _

theorem sameFor_withQuery (hcodes : i.codes = j.codes) {info info' : CallInfo}
    (hquery : info.query = info'.query) (plain : String) :
    SameFor i j (withQuery ctx info plain) (withQuery ctx info' plain) := by
  refine SameFor.get_bind ?_
  rw [hcodes, hquery]
  cases info'.query.addTo plain with
  | ok url => exact SameFor.pure url
  | error reason => exact SameFor.log.bind fun _ => SameFor.throw _

theorem sameFor_urlOf (h : i.Sibling j) (address : String) :
    SameFor i j (urlOf ctx i.info address) (urlOf ctx j.info address) := by
  obtain ⟨⟨options, rfl⟩, flag, stages, hinfo⟩ := h
  have hcodes : i.codes = { i with options := options }.codes := rfl
  rw [hinfo]
  have hquery (plain : String) : SameFor i { i with options := options }
      (withQuery ctx i.info plain)
      (withQuery ctx { i.info with responseNotParse := flag, stages := stages } plain) :=
    sameFor_withQuery hcodes rfl plain
  refine SameFor.get_bind ?_
  dsimp only
  cases i.info.url with
  | none => exact hquery _
  | some resolver =>
    refine (sameFor_ofAction hcodes _ resolver).bind fun r => ?_
    cases r with
    | ok url => exact hquery _
    | error f => exact SameFor.log.bind fun _ => (SameFor.throw _).bind fun plain => hquery plain

theorem sameFor_prepare (h : i.Sibling j) :
    SameFor i j (prepare ctx : Step ρ Prepared) (prepare ctx) := by
  refine SameFor.get_bind ?_
  dsimp only
  have hurl (address : String) :
      SameFor i j (urlOf ctx i.info address) (urlOf ctx j.info address) := sameFor_urlOf h address
  obtain ⟨⟨options, rfl⟩, flag, stages, hinfo⟩ := h
  have hcodes : i.codes = { i with options := options }.codes := rfl
  rw [hinfo] at hurl ⊢
  refine (hurl _).bind fun url => (SameFor.lift _).bind fun world => ?_
  dsimp only
  cases i.info.process with
  | none => exact SameFor.pure _
  | some process =>
    refine (sameFor_ofAction hcodes _ (process _)).bind fun r => ?_
    cases r with
    | ok request => exact SameFor.pure _
    | error f => exact SameFor.throw _

theorem sameFor_connect (h : i.Sibling j) (url : String) :
    SameFor i j (connect ctx url : Step ρ ConnectionId) (connect ctx url) := by
  obtain ⟨⟨options, rfl⟩, -⟩ := h
  refine SameFor.get_bind ((SameFor.lift _).bind fun r => ?_)
  obtain _ | f | c := r
  · exact (SameFor.lift _).bind fun world => SameFor.log.bind fun _ => SameFor.throw _
  · exact SameFor.log.bind fun _ => SameFor.throw _
  · exact SameFor.pure c

theorem sameFor_send (h : i.Sibling j) (c : ConnectionId) (p : Prepared) :
    SameFor i j (send ctx c p : Step ρ RawResponse) (send ctx c p) := by
  obtain ⟨⟨options, rfl⟩, -⟩ := h
  refine SameFor.get_bind ((SameFor.lift _).bind fun r => ?_)
  cases r with
  | ok response => exact SameFor.pure _
  | error e => exact SameFor.log.bind fun _ => SameFor.throw _

/-- The exchange without what is made of its response. -/
def fetch (ctx : CallContext) : Step ρ RawResponse := do
  let prepared ← prepare ctx
  let c ← connect ctx prepared.url
  send ctx c prepared

theorem sameFor_fetch (h : i.Sibling j) :
    SameFor i j (fetch ctx : Step ρ RawResponse) (fetch ctx) :=
  (sameFor_prepare h).bind fun prepared =>
    (sameFor_connect h prepared.url).bind fun c => sameFor_send h c prepared

/-- Fetching leaves the invocation alone, and does the same for both of two siblings. -/
theorem ends_fetch_iff {R : Resumption} {w : World} (h : i.Sibling j)
    {d : Departure ρ (Except CallFailure RawResponse)} :
    Ends R (fetch ctx).run i w d ↔
      d.invocation = i ∧ Ends R (fetch ctx).run j w { d with invocation := j } := by
  have hsame : SameFor i j (fetch ctx : Step ρ RawResponse) (fetch ctx) := sameFor_fetch h
  obtain ⟨t, hi, hj⟩ := hsame
  have hruns {i i' : Invocation ρ} (hwork : (fetch ctx).run.run.run i = leaving i t)
      (o : Except Panic (Except CallFailure RawResponse)) (w' : World) :
      Call.Runs R (fetch ctx).run i w o i' w' ↔ i' = i ∧ Work.Ends R t w o w' := by
    rw [Call.Runs, hwork, leaving, Work.ends_bind_iff]
    simp only [Work.ends_done_iff, Prod.mk.injEq]
    constructor
    · rintro ⟨a, w₁, ht, ⟨rfl, rfl⟩, rfl⟩
      exact ⟨rfl, ht⟩
    · rintro ⟨rfl, ht⟩
      exact ⟨o, w', ht, ⟨rfl, rfl⟩, rfl⟩
  simp only [Ends, hruns hi, hruns hj, true_and]
  constructor
  · rintro ⟨w', hw, hd, ht⟩
    exact ⟨hd, w', hw, ht⟩
  · rintro ⟨hd, w', hw, ht⟩
    exact ⟨w', hw, hd, ht⟩

theorem traces_fetch (ctx : CallContext) (i : Invocation ρ) :
    Step.Traces (fun _ => ([] : List Unit)) (fetch ctx : Step ρ RawResponse) i (fun _ _ => True)
      (Unanswered i) := by
  refine (traces_prepare (watches_nothing i) ctx).bind fun _ p _ => ?_
  refine (traces_connect (watches_nothing i) ctx p.url).bind fun _ c _ => ?_
  refine (traces_send (watches_nothing i) ctx c p).mono fun xs r hr => ⟨hr.1, ?_⟩
  obtain ⟨_ | f | _, _⟩ := r
  · trivial
  · exact hr.2
  · trivial

/-- A fetch that fails has no response. -/
theorem response_of_fetch_failure {R : Resumption} {w : World} {e : Departure ρ CallResult}
    {f : CallFailure} (h : Ends R (fetch ctx).run i w e) (hf : e.outcome = .ok (.error f)) :
    f.response = none := by
  obtain ⟨w', -, hruns⟩ := h
  obtain ⟨xs, -, -, hallowed⟩ := Work.Traces.of_ends (fun _ _ _ _ => rfl) hruns (traces_fetch ctx i)
  rw [hf] at hallowed
  exact hallowed.2

variable [Reply ρ]

/-- What an exchange makes of a response it has fetched. -/
def conclude (ctx : CallContext) (noParse : Bool) (response : RawResponse) : Step ρ RawResponse := do
  if !noParse then decodeReply .decodeFails ctx response
  return response

/-- An exchange fetches a response and concludes; whether it is to decode is known before. -/
theorem work_run (ctx : CallContext) (i : Invocation ρ) :
    (run ctx : Call ρ CallResult).run.run i =
      (fetch ctx >>= conclude ctx i.info.responseNotParse : Step ρ RawResponse).run.run.run i := by
  have hsame : SameFor i i (prepare ctx : Step ρ Prepared) (prepare ctx) :=
    sameFor_prepare i.sibling_self
  obtain ⟨t, hprepare, -⟩ := hsame
  rw [fetch, bind_assoc]
  show (prepare ctx >>= _ : Step ρ RawResponse).run.run.run i = _
  rw [SameFor.work_leaving_bind hprepare, SameFor.work_leaving_bind hprepare]
  congr 1
  funext o
  obtain p | e | prepared := o
  · rfl
  · rfl
  · dsimp only
    rw [bind_assoc]
    rfl

/-- What becomes of what was fetched. -/
def conclusion (noParse : Bool) (r : CallResult) (i : Invocation ρ) (v : World) :
    Departure ρ CallResult :=
  match r with
  | .ok response => if noParse then ⟨.ok (.ok response), i, v⟩ else handOut .decodeFails i response v
  | .error f => ⟨.ok (.error f), i, v⟩

/-- Concluding neither adds nor drops a response. -/
theorem carried?_conclusion (noParse : Bool) (e : Departure ρ CallResult) :
    carried? (e.andThen (conclusion noParse)).outcome = carried? e.outcome := by
  obtain ⟨_ | _ | response, i, v⟩ := e
  · rfl
  · rfl
  · cases noParse with
    | true => rfl
    | false =>
      show carried? (handOut .decodeFails i response v).outcome = some response
      unfold handOut
      cases hdecoded : decoded .decodeFails i response with
      | ok j => rfl
      | error e =>
        obtain ⟨-, rfl⟩ := decoded_eq_error hdecoded
        rfl

/-- Concluding leaves the world alone. -/
theorem world_conclusion (noParse : Bool) (e : Departure ρ CallResult) :
    (e.andThen (conclusion noParse)).world = e.world := by
  obtain ⟨_ | _ | response, i, v⟩ := e
  · rfl
  · rfl
  · cases noParse with
    | true => rfl
    | false =>
      show (handOut .decodeFails i response v).world = v
      unfold handOut
      cases decoded .decodeFails i response <;> rfl

theorem ends_run_iff {R : Resumption} {w : World} {d : Departure ρ CallResult} :
    Ends R (run ctx) i w d ↔
      ∃ e : Departure ρ CallResult, Ends R (fetch ctx).run i w e ∧
        d = e.andThen (conclusion i.info.responseNotParse) := by
  have hrun : Ends R (run ctx) i w d ↔
      Ends R (fetch ctx >>= conclude ctx i.info.responseNotParse : Step ρ RawResponse).run i w d := by
    simp only [Ends, Call.Runs, work_run]
  have hconclude (response : RawResponse) (i₁ : Invocation ρ) (w₁ : World)
      (d : Departure ρ CallResult) :
      Ends R (conclude ctx i.info.responseNotParse response).run i₁ w₁ d ↔
        d = conclusion i.info.responseNotParse (.ok response) i₁ w₁.quiet := by
    unfold conclusion conclude
    cases i.info.responseNotParse with
    | true => exact ends_pure_iff
    | false => exact ends_decodeReply_bind_iff
  rw [hrun, ends_bind_iff _ hconclude]
  refine exists_congr fun e => and_congr_right fun _ => ?_
  obtain ⟨_ | _ | _, i₁, v⟩ := e <;> rfl

end Exchange

end CallChain
