import CallChain.Proofs.Call.Options
import CallChain.Proofs.Call.Place
import CallChain.Proofs.Chain.Builtin
import CallChain.Proofs.Exchange.Alike
import CallChain.Proofs.Exchange.Fetch
import Mathlib.Data.List.Forall2

/-!
# An override that comes too late

The names of the stages are read once, when a call begins.  A stage may push an option that names stages,
but what is left of the chain by then is fixed, and nothing at the center asks for the names again.

`Call.Concur c c'` says that two parts of a call take the same steps to the same outcome whenever they
begin on invocations that differ in the names of stages only, and leave such invocations behind.  The
exchange concurs with itself, and every stage of the library does around rests that do (`Stage.Echoes`).
So a chain in which a stage names other stages concurs with the chain in which it does not.
-/

set_option autoImplicit false

namespace CallChain

/-! ## Work with the same steps -/

namespace Work

variable {α β γ δ : Type}

/-- Two pieces of work with the same steps, whose values are related. -/
inductive Matches (V : α → β → Prop) : Work α → Work β → Prop where
  | done {a : α} {b : β} : V a b → Matches V (.done a) (.done b)
  | act {f : World → World} {next : World → Work α} {next' : World → Work β} :
      (∀ w, Matches V (next w) (next' w)) → Matches V (.act f next) (.act f next')
  | wait {g : Guard} {d : World → World} {next : Work α} {next' : Work β} :
      Matches V next next' → Matches V (.wait g d next) (.wait g d next')

namespace Matches

variable {V : α → β → Prop} {V' : γ → δ → Prop} {p : Work α} {q : Work β}

theorem refl (p : Work α) : Matches Eq p p := by
  induction p with
  | done a => exact .done rfl
  | act f next ih => exact .act ih
  | wait g d next ih => exact .wait ih

theorem bind {k : α → Work γ} {l : β → Work δ} (h : Matches V p q)
    (hk : ∀ a b, V a b → Matches V' (k a) (l b)) : Matches V' (p.bind k) (q.bind l) := by
  induction h with
  | done hab => exact hk _ _ hab
  | act _ ih => exact .act ih
  | wait _ ih => exact .wait ih

/-- What related values agree on, matching work ends with. -/
theorem bind_done_eq {f : α → γ} {g : β → γ} (h : Matches V p q) (hfg : ∀ a b, V a b → f a = g b) :
    (p.bind fun a => .done (f a)) = q.bind fun b => .done (g b) := by
  induction h with
  | done hab => exact congrArg Work.done (hfg _ _ hab)
  | act _ ih => exact congrArg (Work.act _) (funext ih)
  | wait _ ih => exact congrArg (Work.wait _ _) ih

end Matches

end Work

/-! ## Invocations that differ in the names of stages -/

namespace Invocation.Kin

variable {ρ : Type} {i j : Invocation ρ}

theorem refl (i : Invocation ρ) : i.Kin i := ⟨⟨i.options, rfl⟩, i.info.stages, rfl⟩

theorem push (h : i.Kin j) (o : CallOption) : (i.push o).Kin (j.push o) := by
  obtain ⟨⟨options, rfl⟩, stages, hinfo⟩ := h
  refine ⟨⟨_, rfl⟩, ?_⟩
  rw [info_push, info_push, hinfo]
  cases o with
  | stages names => exact ⟨some names, rfl⟩
  | setQueryValue k value =>
    refine ⟨stages, ?_⟩
    rw [CallInfo.apply_setQueryValue, CallInfo.apply_setQueryValue]
  | addQueryValue k value =>
    refine ⟨stages, ?_⟩
    rw [CallInfo.apply_addQueryValue, CallInfo.apply_addQueryValue]
  | _ => exact ⟨stages, rfl⟩

/-- The names of stages may be pushed on one side alone. -/
theorem push_stages (h : i.Kin j) (names : List String) : (i.push (.stages names)).Kin j := by
  obtain ⟨⟨options, rfl⟩, stages, hinfo⟩ := h
  refine ⟨⟨options, rfl⟩, stages, ?_⟩
  rw [info_push, hinfo]
  rfl

end Invocation.Kin

/-! ## Parts of a call that do not read the names -/

namespace Call

open Work (Matches)

variable {ρ α β : Type}

/-- Two parts of a call that do the same for invocations that differ in the names of stages. -/
def Concur (c c' : Call ρ α) : Prop :=
  ∀ i j : Invocation ρ, i.Kin j →
    Matches (fun r r' => r.1 = r'.1 ∧ r.2.Kin r'.2) (c.run.run i) (c'.run.run j)

namespace Concur

variable {c c' : Call ρ α} {k l : α → Call ρ β}

theorem pure (a : α) : Concur (Pure.pure a : Call ρ α) (Pure.pure a) :=
  fun _ _ hkin => .done ⟨rfl, hkin⟩

theorem bind (h : Concur c c') (hk : ∀ a, Concur (k a) (l a)) : Concur (c >>= k) (c' >>= l) := by
  intro i j hkin
  rw [SameAt.work_bind, SameAt.work_bind]
  refine (h i j hkin).bind ?_
  rintro ⟨o, i'⟩ ⟨o', j'⟩ ⟨ho, hkin'⟩
  obtain rfl : o = o' := ho
  cases o with
  | ok a => exact hk a i' j' hkin'
  | error p => exact .done ⟨rfl, hkin'⟩

theorem get_bind {k l : Invocation ρ → Call ρ β} (hk : ∀ i j, i.Kin j → Concur (k i) (l j)) :
    Concur (get >>= k) (get >>= l) :=
  fun i j hkin => hk i j hkin i j hkin

theorem modified {f g : Invocation ρ → Invocation ρ} (hf : ∀ i j, i.Kin j → (f i).Kin (g j)) :
    Concur (modify f : Call ρ PUnit) (modify g) :=
  fun i j hkin => .done ⟨rfl, hf i j hkin⟩

theorem stored {i j : Invocation ρ} (h : i.Kin j) :
    Concur (set i : Call ρ PUnit) (set j) :=
  fun _ _ _ => .done ⟨rfl, h⟩

theorem ofAttempt (t : Attempt α) : Concur (Call.ofAttempt t : Call ρ α) (Call.ofAttempt t) := by
  intro i j hkin
  refine (Matches.refl t.run).bind ?_
  rintro r _ rfl
  exact .done ⟨rfl, hkin⟩

theorem log {ctx : CallContext} {level : Level} {message : String} {fields : LogFields} :
    Concur (Call.log ctx level message fields : Call ρ Unit) (Call.log ctx level message fields) :=
  ofAttempt _

theorem caught (h : Concur c c') : Concur c.caught c'.caught := by
  intro i j hkin
  refine (h i j hkin).bind ?_
  rintro ⟨o, i'⟩ ⟨o', j'⟩ ⟨ho, hkin'⟩
  obtain rfl : o = o' := ho
  exact .done ⟨rfl, hkin'⟩

theorem forIn {γ σ : Type} {f : γ → σ → Call ρ (ForInStep σ)}
    (hf : ∀ x s, Concur (f x s) (f x s)) (xs : List γ) (s : σ) :
    Concur (ForIn.forIn xs s f) (ForIn.forIn xs s f) := by
  induction xs generalizing s with
  | nil => exact pure s
  | cons x xs ih =>
    rw [List.forIn_cons]
    refine (hf x s).bind fun r => ?_
    cases r with
    | done s' => exact pure s'
    | yield s' => exact ih s'

end Concur

end Call

open Call (Concur)

/-! ## The exchange -/

namespace Exchange

variable {ρ α β : Type} {ctx : CallContext}

theorem concur_bind {s s' : Step ρ α} {k l : α → Step ρ β} (hs : Concur s.run s'.run)
    (hk : ∀ a, Concur (k a).run (l a).run) : Concur (s >>= k).run (s' >>= l).run := by
  refine hs.bind fun r => ?_
  cases r with
  | ok a => exact hk a
  | error e => exact Concur.pure _

theorem concur_get_bind {k l : Invocation ρ → Step ρ β}
    (hk : ∀ i j, i.Kin j → Concur (k i).run (l j).run) :
    Concur (get >>= k : Step ρ β).run (get >>= l : Step ρ β).run :=
  fun i j hkin => hk i j hkin i j hkin

theorem concur_log {level : Level} {message : String} {fields : LogFields} :
    Concur (log ctx level message fields : Step ρ Unit).run
      (log ctx level message fields : Step ρ Unit).run :=
  (Concur.ofAttempt _).bind fun _ => Concur.pure _

variable [Reply ρ]

theorem concur_decodeReply (place : Place) (response : RawResponse) :
    Concur (decodeReply place ctx response : Step ρ Unit).run
      (decodeReply place ctx response).run := by
  refine concur_get_bind fun i j hkin => ?_
  have hreply := hkin.withReply
  obtain ⟨⟨options, rfl⟩, -⟩ := hkin
  dsimp only
  cases i.reply.seen? with
  | none => exact Concur.pure _
  | some reply =>
    dsimp only
    cases Reply.decode? reply response.body with
    | some decoded => exact (Concur.stored (hreply (.live decoded))).bind fun _ => Concur.pure _
    | none => exact concur_bind concur_log fun _ => Concur.pure _

theorem concur_conclude (noParse : Bool) (response : RawResponse) :
    Concur (conclude ctx noParse response : Step ρ RawResponse).run
      (conclude ctx noParse response).run := by
  cases noParse with
  | true => exact Concur.pure _
  | false => exact concur_bind (concur_decodeReply _ response) fun _ => Concur.pure _

/-- The exchange does not ask for the names of stages. -/
theorem concur_run : Concur (run ctx : Call ρ CallResult) (run ctx) := by
  intro i j hkin
  obtain ⟨stages, hinfo⟩ := hkin.info
  have hsibling : i.Sibling j := ⟨hkin.rest, i.info.responseNotParse, stages, hinfo⟩
  have hsame : SameFor i j (fetch ctx : Step ρ RawResponse) (fetch ctx) := sameFor_fetch hsibling
  obtain ⟨t, hi, hj⟩ := hsame
  have hnoParse : j.info.responseNotParse = i.info.responseNotParse := by rw [hinfo]
  rw [work_run, work_run, hnoParse, SameFor.work_leaving_bind hi, SameFor.work_leaving_bind hj]
  refine (Work.Matches.refl t).bind ?_
  rintro o _ rfl
  obtain p | e | response := o
  · exact .done ⟨rfl, hkin⟩
  · exact .done ⟨rfl, hkin⟩
  · exact concur_conclude _ response i j hkin

end Exchange

/-! ## Stages and chains -/

namespace Stage

/-- Two stages of one name that do the same around rests that do the same, whatever names of stages the
invocation has. -/
structure Echoes (s s' : Stage) : Prop where
  name : s.name = s'.name
  skips : s.skips = s'.skips
  intercept : ∀ {ρ : Type} [Reply ρ] (next next' : Next ρ), next.remaining = next'.remaining →
    (∀ ctx, Concur (next.run ctx) (next'.run ctx)) →
    ∀ ctx, Concur (s.intercept ctx next) (s'.intercept ctx next')

/-- The stage that first names the stages of the call anew. -/
def naming (s : Stage) (names : List String) : Stage where
  name := s.name
  skips := s.skips
  intercept ctx next := do
    modify fun i => i.push (.stages names)
    s.intercept ctx next

/-- Naming stages makes no difference. -/
theorem Echoes.naming {s s' : Stage} (h : s.Echoes s') (names : List String) :
    (s.naming names).Echoes s' where
  name := h.name
  skips := h.skips
  intercept {ρ} _ next next' hnames hnext ctx := by
    have hpushed : Concur (modify fun i => i.push (.stages names) : Call ρ PUnit) (pure ⟨⟩) :=
      fun i j hkin => .done ⟨rfl, hkin.push_stages names⟩
    exact hpushed.bind fun _ => h.intercept next next' hnames hnext ctx

end Stage

namespace Chain

variable {ρ : Type} [Reply ρ] {chain chain' : Chain}

theorem map_name_of_echoes (h : List.Forall₂ Stage.Echoes chain chain') :
    chain.map Stage.name = chain'.map Stage.name := by
  induction h with
  | nil => rfl
  | cons hs _ ih => rw [List.map_cons, List.map_cons, hs.name, ih]

/-- Chains whose stages do the same do the same. -/
theorem concur_run (h : List.Forall₂ Stage.Echoes chain chain') (ctx : CallContext) :
    Concur (run chain Exchange.run ctx : Call ρ CallResult) (run chain' Exchange.run ctx) := by
  induction h generalizing ctx with
  | nil =>
    rw [run_nil]
    exact Exchange.concur_run
  | @cons s s' rest rest' hs hrest ih =>
    rw [run_cons, run_cons]
    refine Concur.get_bind fun i j hkin => ?_
    obtain ⟨⟨options, rfl⟩, -⟩ := hkin
    dsimp only
    rw [hs.skips]
    split
    · exact ih ctx
    · exact hs.intercept _ _ (map_name_of_echoes hrest) ih ctx

end Chain

namespace Builtin

variable {ρ : Type} [Reply ρ] {next next' : Next ρ}

omit [Reply ρ] in
theorem concur_push (o : CallOption) :
    Concur (modify fun i => i.push o : Call ρ PUnit) (modify fun i => i.push o) :=
  Concur.modified fun _ _ hkin => hkin.push o

omit [Reply ρ] in
theorem concur_verdict (ctx : CallContext) (codes : CodeRegistry) (field : StatusField)
    (response : RawResponse) :
    Concur (StatusVerdict.judge ctx codes field response : Call ρ CallResult)
      (StatusVerdict.judge ctx codes field response) := by
  unfold StatusVerdict.judge
  cases StatusVerdict.violation? field with
  | some reason => exact Concur.log.bind fun _ => Concur.pure _
  | none =>
    dsimp only
    cases CallStatus.toFault codes field.status? with
    | none => exact Concur.pure _
    | some f => exact Concur.log.bind fun _ => Concur.pure _

theorem concur_gate (ctx : CallContext) (response : RawResponse) :
    Concur (StatusCodeGate.judge ctx response : Exchange.Step ρ RawResponse).run
      (StatusCodeGate.judge ctx response).run := by
  refine Exchange.concur_get_bind fun i j hkin => ?_
  obtain ⟨⟨options, rfl⟩, -⟩ := hkin
  cases response.isSuccess with
  | true => exact Exchange.concur_bind (Exchange.concur_decodeReply _ response) fun _ => Concur.pure _
  | false => exact Exchange.concur_bind Exchange.concur_log fun _ => Concur.pure _

/-- What shows how a call went does not depend on the names of stages. -/
theorem fieldOf_kin {i j : Invocation ρ} (hkin : i.Kin j) (response : RawResponse) :
    StatusVerdict.fieldOf i response = StatusVerdict.fieldOf j response := by
  obtain ⟨⟨options, rfl⟩, stages, hinfo⟩ := hkin
  unfold StatusVerdict.fieldOf
  rw [hinfo]

/-- The stages of the library do not ask for the names of stages. -/
theorem echoes (b : Builtin) (skippers : List Skipper) :
    (b.stage skippers).Echoes (b.stage skippers) := by
  refine ⟨rfl, rfl, fun next next' _ hnext ctx => ?_⟩
  simp only [intercept_stage]
  cases b with
  | accessLog =>
    refine (Concur.ofAttempt _).bind fun world => (hnext ctx).bind fun result => ?_
    refine (Concur.ofAttempt _).bind fun world' => Concur.get_bind fun i j hkin => ?_
    obtain ⟨⟨options, rfl⟩, -⟩ := hkin
    cases result with
    | ok response => exact Concur.log.bind fun _ => Concur.pure _
    | error e => exact Concur.log.bind fun _ => Concur.log.bind fun _ => Concur.pure _
  | statusVerdict =>
    refine (hnext ctx).bind fun result => Concur.get_bind fun i j hkin => ?_
    have hfield := fieldOf_kin hkin
    obtain ⟨⟨options, rfl⟩, -⟩ := hkin
    cases result with
    | ok response =>
      dsimp only
      rw [hfield]
      exact concur_verdict ctx _ _ response
    | error e => exact Concur.pure _
  | statusCodeGate =>
    refine (concur_push _).bind fun _ => (hnext ctx).bind fun result => ?_
    cases result with
    | ok response => exact concur_gate ctx response
    | error e =>
      refine Concur.get_bind fun i j hkin => ?_
      obtain ⟨⟨options, rfl⟩, -⟩ := hkin
      exact Concur.pure _
  | certificateGuard =>
    refine Concur.get_bind fun i j hkin => ?_
    obtain ⟨⟨options, rfl⟩, -⟩ := hkin
    dsimp only
    split
    · refine (hnext ctx).bind fun result => ?_
      cases result with
      | ok response => exact Concur.pure _
      | error e => exact Concur.pure _
    · exact Concur.log.bind fun _ => Concur.pure _
  | recovery =>
    refine (Concur.ofAttempt _).bind fun _ => (hnext ctx).caught.bind fun result => ?_
    cases result with
    | ok result => exact Concur.pure _
    | error p =>
      refine Concur.get_bind fun i j hkin => ?_
      obtain ⟨⟨options, rfl⟩, -⟩ := hkin
      exact Concur.log.bind fun _ => (Concur.ofAttempt _).bind fun site => Concur.pure _
  | requestId =>
    show Concur (RequestId.intercept ctx next) (RequestId.intercept ctx next')
    unfold RequestId.intercept
    cases ctx.requestId with
    | some id => exact (Concur.pure id).bind fun id => (concur_push _).bind fun _ => hnext _
    | none => exact (Concur.ofAttempt _).bind fun id => (concur_push _).bind fun _ => hnext _
  | callSpan =>
    refine Concur.get_bind fun i j hkin => ?_
    obtain ⟨⟨options, rfl⟩, -⟩ := hkin
    refine (Concur.forIn (fun field s => ?_) _ _).bind fun _ => hnext _
    exact Concur.log.bind fun _ => Concur.pure _

end Builtin

end CallChain
