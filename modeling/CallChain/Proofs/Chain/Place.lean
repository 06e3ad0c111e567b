import CallChain.Proofs.Call.Place
import CallChain.Proofs.Chain.Builtin
import CallChain.Proofs.Exchange.Fetch
import CallChain.Stages.Scripted

/-!
# Stages that leave method and target alone

A stage leaves method and target alone if it never shows the rest of the chain another place than the
one the call is at, and hands the invocation back there: around two rests that do the same at that place
it does the same (`Stage.KeepsPlace`).  All stages of the library do, and every scripted stage without a
`redirect`.  So does the exchange at the center.

`Stage.OnlyRuns` says that a stage does not read which stages are left.  Of the stages here only a
scripted one that observes does.
-/

set_option autoImplicit false

namespace CallChain

open Call (SameAt)

namespace Stage

/-- Whether a stage leaves method and target alone: it does the same around two rests that do the same
at the place the call is at. -/
def KeepsPlace (s : Stage) : Prop :=
  ∀ {ρ : Type} [Reply ρ] (m t : String) (next next' : Next ρ), next.remaining = next'.remaining →
    (∀ ctx, SameAt m t (next.run ctx) (next'.run ctx)) →
    ∀ ctx, SameAt m t (s.intercept ctx next) (s.intercept ctx next')

/-- Whether a stage only runs the rest, and does not look at which stages are left. -/
def OnlyRuns (s : Stage) : Prop :=
  ∀ {ρ : Type} [Reply ρ] (ctx : CallContext) (next : Next ρ) (names : List String),
    s.intercept ctx next = s.intercept ctx ⟨names, next.run⟩

end Stage

namespace Exchange

variable {ρ : Type} {m t : String} {ctx : CallContext} [Reply ρ]

variable {α β : Type}

omit [Reply ρ] in
theorem sameAt_bind {s s' : Step ρ α} {k l : α → Step ρ β} (hs : SameAt m t s.run s'.run)
    (hk : ∀ a, SameAt m t (k a).run (l a).run) : SameAt m t (s >>= k).run (s' >>= l).run := by
  refine hs.bind fun r => ?_
  cases r with
  | ok a => exact hk a
  | error e => exact SameAt.pure _

omit [Reply ρ] in
theorem sameAt_get_bind {k l : Invocation ρ → Step ρ β}
    (hk : ∀ i : Invocation ρ, i.At m t → SameAt m t (k i).run (l i).run) :
    SameAt m t (get >>= k : Step ρ β).run (get >>= l : Step ρ β).run :=
  fun i hi => hk i hi i hi

omit [Reply ρ] in
theorem sameAt_log {level : Level} {message : String} {fields : LogFields} :
    SameAt m t (log ctx level message fields : Step ρ Unit).run
      (log ctx level message fields : Step ρ Unit).run :=
  (SameAt.ofAttempt _).bind fun _ => SameAt.pure _

/-- Decoding a response leaves method and target alone. -/
theorem sameAt_decodeReply (place : Place) (response : RawResponse) :
    SameAt m t (decodeReply place ctx response : Step ρ Unit).run
      (decodeReply place ctx response).run := by
  refine sameAt_get_bind fun i hi => ?_
  cases i.reply.seen? with
  | none => exact SameAt.pure _
  | some reply =>
    dsimp only
    cases Reply.decode? reply response.body with
    | some decoded =>
      have hj : Invocation.At m t { i with reply := .live decoded } := hi
      exact fun _ _ => ⟨rfl, hj⟩
    | none => exact sameAt_bind sameAt_log fun _ => SameAt.pure _

/-- The exchange leaves method and target alone. -/
theorem sameAt_run : SameAt m t (run ctx : Call ρ CallResult) (run ctx) := by
  intro i hi
  refine ⟨rfl, ?_⟩
  have hsame : SameFor i i (fetch ctx : Step ρ RawResponse) (fetch ctx) :=
    sameFor_fetch i.sibling_self
  obtain ⟨t', hfetch, -⟩ := hsame
  rw [work_run, SameFor.work_leaving_bind hfetch]
  refine Work.Yields.bind (Work.Yields.of_all (P := fun _ => True) fun _ => trivial) fun o _ => ?_
  obtain p | e | response := o
  · exact hi
  · exact hi
  · unfold conclude
    cases i.info.responseNotParse with
    | true => exact hi
    | false =>
      exact (sameAt_bind (sameAt_decodeReply _ response) (fun _ => SameAt.pure _) i hi).2

end Exchange

namespace Builtin

variable {ρ : Type} [Reply ρ] {m t : String} {next next' : Next ρ}

omit [Reply ρ] in
theorem sameAt_log {ctx : CallContext} {level : Level} {message : String} {fields : LogFields} :
    SameAt m t (Call.log ctx level message fields : Call ρ Unit)
      (Call.log ctx level message fields) :=
  SameAt.ofAttempt _

omit [Reply ρ] in
theorem sameAt_push (o : CallOption) :
    SameAt m t (modify fun i => i.push o : Call ρ PUnit) (modify fun i => i.push o) :=
  SameAt.modified fun _ hi => hi

omit [Reply ρ] in
theorem sameAt_verdict (ctx : CallContext) (codes : CodeRegistry) (field : StatusField)
    (response : RawResponse) :
    SameAt m t (StatusVerdict.judge ctx codes field response : Call ρ CallResult)
      (StatusVerdict.judge ctx codes field response) := by
  unfold StatusVerdict.judge
  cases StatusVerdict.violation? field with
  | some reason => exact sameAt_log.bind fun _ => SameAt.pure _
  | none =>
    dsimp only
    cases CallStatus.toFault codes field.status? with
    | none => exact SameAt.pure _
    | some f => exact sameAt_log.bind fun _ => SameAt.pure _

theorem sameAt_gate (ctx : CallContext) (response : RawResponse) :
    SameAt m t (StatusCodeGate.judge ctx response : Exchange.Step ρ RawResponse).run
      (StatusCodeGate.judge ctx response).run := by
  refine Exchange.sameAt_get_bind fun i hi => ?_
  cases response.isSuccess with
  | true =>
    exact Exchange.sameAt_bind (Exchange.sameAt_decodeReply _ response) fun _ => SameAt.pure _
  | false => exact Exchange.sameAt_bind Exchange.sameAt_log fun _ => SameAt.pure _

/-- The stages of the library leave method and target alone. -/
theorem keepsPlace (b : Builtin) (skippers : List Skipper) : (b.stage skippers).KeepsPlace := by
  intro ρ _ m t next next' _ hnext ctx
  simp only [intercept_stage]
  cases b with
  | accessLog =>
    refine (SameAt.ofAttempt _).bind fun world => (hnext ctx).bind fun result => ?_
    refine (SameAt.ofAttempt _).bind fun world' => SameAt.get_bind fun i hi => ?_
    cases result with
    | ok response => exact sameAt_log.bind fun _ => SameAt.pure _
    | error e => exact sameAt_log.bind fun _ => sameAt_log.bind fun _ => SameAt.pure _
  | statusVerdict =>
    refine (hnext ctx).bind fun result => SameAt.get_bind fun i hi => ?_
    cases result with
    | ok response => exact sameAt_verdict ctx _ _ response
    | error e => exact SameAt.pure _
  | statusCodeGate =>
    refine (sameAt_push _).bind fun _ => (hnext ctx).bind fun result => ?_
    cases result with
    | ok response => exact sameAt_gate ctx response
    | error e => exact SameAt.get_bind fun i hi => SameAt.pure _
  | certificateGuard =>
    refine SameAt.get_bind fun i hi => ?_
    dsimp only
    split
    · refine (hnext ctx).bind fun result => ?_
      cases result with
      | ok response => exact SameAt.pure _
      | error e => exact SameAt.pure _
    · exact sameAt_log.bind fun _ => SameAt.pure _
  | recovery =>
    refine (SameAt.ofAttempt _).bind fun _ => (hnext ctx).caught.bind fun result => ?_
    cases result with
    | ok result => exact SameAt.pure _
    | error p =>
      refine SameAt.get_bind fun i hi => sameAt_log.bind fun _ => ?_
      exact (SameAt.ofAttempt _).bind fun site => SameAt.pure _
  | requestId =>
    show SameAt m t (RequestId.intercept ctx next) (RequestId.intercept ctx next')
    unfold RequestId.intercept
    cases ctx.requestId with
    | some id =>
      exact (SameAt.pure id).bind fun id => (sameAt_push _).bind fun _ => hnext _
    | none =>
      exact (SameAt.ofAttempt _).bind fun id => (sameAt_push _).bind fun _ => hnext _
  | callSpan =>
    refine SameAt.get_bind fun i hi => ?_
    refine (SameAt.forIn (fun field s => ?_) _ _).bind fun _ => hnext _
    exact sameAt_log.bind fun _ => SameAt.pure _

/-- The stages of the library do not look at which stages are left. -/
theorem onlyRuns (b : Builtin) (skippers : List Skipper) : (b.stage skippers).OnlyRuns := by
  intro ρ _ ctx next names
  cases b <;> rfl

end Builtin

namespace ScriptedStage

variable {ρ : Type} {m t : String} {next next' : Next ρ}

/-- Whether what a stage observes of the rest is at most which stages are left. -/
def ReadsNames (s : ScriptedStage) : Prop :=
  ∀ {ρ : Type} (w : World) (ctx : CallContext) (i : Invocation ρ) (next next' : Next ρ),
    next.remaining = next'.remaining → s.view w ctx i next = s.view w ctx i next'

theorem sameAt_note (v : Json) : SameAt m t (note v : Call ρ Unit) (note v) :=
  SameAt.ofAttempt _

/-- What a scripted stage does before the rest, but for redirecting, leaves method and target alone. -/
theorem sameAt_act {s : ScriptedStage} (hview : s.ReadsNames)
    (hnext : next.remaining = next'.remaining) (given ctx : CallContext) {a : StageAction}
    (ha : ∀ method target, a ≠ .redirect method target) :
    SameAt m t (s.act given next ctx a) (s.act given next' ctx a) := by
  refine SameAt.get_bind fun i hi => ?_
  cases a with
  | redirect method target => exact absurd rfl (ha method target)
  | option o =>
    have hj : (i.push o).At m t := hi
    exact (SameAt.stored hj).bind fun _ => SameAt.pure _
  | observe =>
    refine (SameAt.ofAttempt _).bind fun w => ?_
    rw [hview w given i next next' hnext]
    exact (sameAt_note _).bind fun _ => SameAt.pure _
  | tag header =>
    dsimp only
    cases i.info.data.bind PassedData.text? with
    | some text =>
      have hj : (i.push (.setHeader header [text])).At m t := hi
      exact (SameAt.stored hj).bind fun _ => SameAt.pure _
    | none => exact (SameAt.pure _).bind fun _ => SameAt.pure _
  | dropReply =>
    have hj : Invocation.At m t { i with reply := i.reply.putAside } := hi
    exact (SameAt.stored hj).bind fun _ => SameAt.pure _
  | panic | cancel | sleep => exact (SameAt.ofAttempt _).bind fun _ => SameAt.pure _
  | timeout d =>
    refine (SameAt.ofAttempt _).bind fun w => ?_
    exact (SameAt.ofAttempt _).bind fun _ => SameAt.pure _
  | fail | answer | requestId | field => exact SameAt.pure _

theorem sameAt_actAll {s : ScriptedStage} (hview : s.ReadsNames)
    (hnext : next.remaining = next'.remaining) (given ctx : CallContext) {actions : List StageAction}
    (hactions : ∀ method target, .redirect method target ∉ actions) :
    SameAt m t (s.actAll given next ctx actions) (s.actAll given next' ctx actions) := by
  induction actions generalizing ctx with
  | nil => exact SameAt.pure _
  | cons a rest ih =>
    have ha (method target : Option String) : a ≠ .redirect method target := by
      rintro rfl
      exact hactions method target List.mem_cons_self
    refine (sameAt_act hview hnext given ctx ha).bind fun r => ?_
    cases r with
    | ok ctx' => exact ih ctx' fun method target h => hactions method target (.tail a h)
    | error outcome => exact SameAt.pure _

theorem sameAt_persist {s : ScriptedStage} {rest rest' : Call ρ CallResult}
    (hrest : SameAt m t rest rest') (retries : Nat) :
    SameAt m t (s.persist rest retries) (s.persist rest' retries) := by
  induction retries with
  | zero => exact hrest
  | succ n ih =>
    refine hrest.bind fun result => ?_
    cases result with
    | ok response => exact SameAt.pure _
    | error e => exact (sameAt_note _).bind fun _ => ih

theorem sameAt_amend (s : ScriptedStage) (result : CallResult) (a : OutcomeAction) :
    SameAt m t (s.amend result a : Call ρ CallResult) (s.amend result a) := by
  refine SameAt.get_bind fun i hi => ?_
  cases result <;> cases a <;> first | exact SameAt.pure _ | exact SameAt.ofAttempt _

theorem sameAt_amendAll (s : ScriptedStage) (result : CallResult) (actions : List OutcomeAction) :
    SameAt m t (actions.foldlM s.amend result : Call ρ CallResult)
      (actions.foldlM s.amend result) := by
  induction actions generalizing result with
  | nil => exact SameAt.pure _
  | cons a rest ih =>
    rw [List.foldlM_cons]
    exact (sameAt_amend s result a).bind ih

/-- A scripted stage that does not redirect leaves method and target alone. -/
theorem keepsPlace {s : ScriptedStage} (hview : s.ReadsNames)
    (hbefore : ∀ method target, .redirect method target ∉ s.before) (skippers : List Skipper) :
    (s.stage skippers).KeepsPlace := by
  intro ρ _ m t next next' hnames hnext ctx
  refine (sameAt_note _).bind fun _ => ?_
  refine (sameAt_actAll hview hnames ctx ctx hbefore).bind fun r => ?_
  cases r with
  | error outcome => exact SameAt.pure _
  | ok ctx' =>
    refine (sameAt_persist (hnext ctx') s.retries).bind fun result => ?_
    exact (sameAt_note _).bind fun _ => sameAt_amendAll s result s.after

/-- What a scripted stage does before the rest depends on the stages left only where it observes. -/
theorem actAll_eq (s : ScriptedStage) (given ctx : CallContext) (next : Next ρ)
    (names : List String) {actions : List StageAction} (hactions : .observe ∉ actions) :
    s.actAll given next ctx actions = s.actAll given ⟨names, next.run⟩ ctx actions := by
  induction actions generalizing ctx with
  | nil => rfl
  | cons a rest ih =>
    have ha : s.act given next ctx a = s.act given ⟨names, next.run⟩ ctx a := by
      cases a with
      | observe => exact absurd List.mem_cons_self hactions
      | option | redirect | tag | fail | answer | panic | cancel | sleep | dropReply | timeout
        | requestId | field => rfl
    have hrest (ctx' : CallContext) := ih ctx' fun h => hactions (.tail a h)
    simp only [actAll, ha, hrest]

/-- A scripted stage that does not observe does not look at which stages are left. -/
theorem onlyRuns {s : ScriptedStage} (hbefore : .observe ∉ s.before) (skippers : List Skipper) :
    (s.stage skippers).OnlyRuns := by
  intro ρ _ ctx next names
  show s.intercept ctx next = s.intercept ctx ⟨names, next.run⟩
  simp only [intercept, actAll_eq s ctx ctx next names hbefore]

end ScriptedStage

end CallChain
