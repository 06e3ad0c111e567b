import CallChain.Proofs.Chain.Place
import CallChain.Proofs.Client.Invoke

/-!
# A chain as a composition of its stages

A chain runs as the right fold of its stages over what is at the center: each stage is applied to the
rest, or replaced by the rest where it stands aside.

While method and target stay the same, a stage that stands aside once stands aside always, and the chain
runs like the chain without it.  Two things are asked for here.  The stages and the center leave method
and target alone, and no stage reads which stages are left, for those that will stand aside are counted
there.  Neither can be dropped: `present_needs_stillness` shows it.

Recorders are stages that write one event on the way in and one on the way out.  `runs_recorders` says
what a call through recorders leaves in the journal.
-/

set_option autoImplicit false

namespace CallChain

open Call (Runs SameAt)

/-- The stage around the rest of a chain: it is applied to the rest, or stands aside for it. -/
def Stage.around {ρ : Type} [Reply ρ] (s : Stage) (rest : Next ρ) : Next ρ where
  remaining := s.name :: rest.remaining
  run ctx := do
    let i ← get
    if s.skips i.method i.target then rest.run ctx else s.intercept ctx rest

namespace Chain

variable {ρ : Type} [Reply ρ]

/-- The stages of a chain folded over what is at the center. -/
def onion (chain : Chain) (center : CallContext → Call ρ CallResult) : Next ρ :=
  chain.foldr Stage.around ⟨[], center⟩

theorem remaining_onion (chain : Chain) (center : CallContext → Call ρ CallResult) :
    (chain.onion center).remaining = chain.map Stage.name := by
  induction chain with
  | nil => rfl
  | cons s rest ih => exact congrArg (s.name :: ·) ih

/-- Walking a chain by position is running the fold of its stages. -/
theorem run_eq_onion (chain : Chain) (center : CallContext → Call ρ CallResult) :
    chain.run center = (chain.onion center).run := by
  induction chain with
  | nil =>
    funext ctx
    exact run_nil center ctx
  | cons s rest ih =>
    funext ctx
    have hrest : onion rest center = ⟨rest.map Stage.name, run rest center⟩ := by
      rw [ih, ← remaining_onion rest center]
    show run (s :: rest) center ctx = (s.around (onion rest center)).run ctx
    rw [run_cons, hrest]
    rfl

/-- The chain without the stages that stand aside for a method and a target. -/
def present (chain : Chain) (m t : String) : Chain := chain.filter fun s => !s.skips m t

theorem present_cons (s : Stage) (rest : Chain) (m t : String) :
    present (s :: rest) m t = if s.skips m t then present rest m t else s :: present rest m t := by
  unfold present
  rw [List.filter_cons]
  cases s.skips m t <;> rfl

/-- The outermost stage where method and target are known. -/
theorem work_run_cons (s : Stage) (rest : Chain) (center : CallContext → Call ρ CallResult)
    (ctx : CallContext) {i : Invocation ρ} {m t : String} (hi : i.At m t) :
    (run (s :: rest) center ctx).run.run i =
      if s.skips m t then (run rest center ctx).run.run i
      else (s.intercept ctx ⟨rest.map Stage.name, run rest center⟩).run.run i := by
  obtain ⟨rfl, rfl⟩ := hi
  rw [run_cons]
  show (if s.skips i.method i.target then run rest center ctx
    else s.intercept ctx ⟨rest.map Stage.name, run rest center⟩).run.run i = _
  split <;> rfl

/-- Stages that stand aside at the place of a call can be left out. -/
theorem sameAt_run_present {m t : String} {center : CallContext → Call ρ CallResult}
    (hcenter : ∀ ctx, SameAt m t (center ctx) (center ctx)) (chain : Chain)
    (hkeeps : ∀ s ∈ chain, s.KeepsPlace) (honly : ∀ s ∈ chain, s.OnlyRuns) (ctx : CallContext) :
    SameAt m t (chain.run center ctx) ((chain.present m t).run center ctx) := by
  -- what the stages inside do at the place is all that a stage around them can depend on
  induction chain generalizing ctx with
  | nil => simpa [present] using hcenter ctx
  | cons s rest ih =>
    have hrest (ctx : CallContext) :
        SameAt m t (run rest center ctx) (run (present rest m t) center ctx) :=
      ih (fun s' hs' => hkeeps s' (List.mem_cons_of_mem s hs'))
        (fun s' hs' => honly s' (List.mem_cons_of_mem s hs')) ctx
    intro i hi
    rw [work_run_cons s rest center ctx hi, present_cons]
    split
    case isTrue => exact hrest ctx i hi
    case isFalse hskips =>
      rw [work_run_cons s (present rest m t) center ctx hi, if_neg hskips]
      have hstage := hkeeps s List.mem_cons_self m t
        ⟨rest.map Stage.name, run rest center⟩
        ⟨rest.map Stage.name, run (present rest m t) center⟩ rfl hrest ctx
      -- the names of the stages left differ, but `s` does not read them
      rw [honly s List.mem_cons_self ctx ⟨(present rest m t).map Stage.name,
        run (present rest m t) center⟩ (rest.map Stage.name)]
      exact hstage i hi

end Chain

/-! ### Recorders -/

/-- The world with more events at the end of its journal. -/
def World.recordAll (events : List Event) (w : World) : World :=
  { w with journal := w.journal ++ events }

theorem World.recordAll_nil (w : World) : w.recordAll [] = w := by
  simp [recordAll]

theorem World.recordAll_recordAll (xs ys : List Event) (w : World) :
    (w.recordAll xs).recordAll ys = w.recordAll (xs ++ ys) := by
  simp [recordAll]

/-- A stage that records an event, runs the rest once, and records another one. -/
structure Recorder where
  name : String
  skips : String → String → Bool
  before : Event
  /-- The event on the way out, which may tell of the result. -/
  after : CallResult → Event

namespace Recorder

def intercept {ρ : Type} (r : Recorder) (ctx : CallContext) (next : Next ρ) :
    Call ρ CallResult := do
  Call.ofAttempt (Work.record r.before)
  let result ← next.run ctx
  Call.ofAttempt (Work.record (r.after result))
  return result

def stage (r : Recorder) : Stage := ⟨r.name, r.skips, r.intercept⟩

/-- The recorders that do not stand aside for a method and a target. -/
def present (rs : List Recorder) (m t : String) : List Recorder :=
  rs.filter fun r => !r.skips m t

/-- What recorders write on the way in. -/
def entries (rs : List Recorder) : List Event := rs.map before

/-- What recorders write on the way out; a panic passes them by. -/
def exits (rs : List Recorder) : Except Panic CallResult → List Event
  | .ok result => rs.reverse.map (·.after result)
  | .error _ => []

theorem exits_cons (r : Recorder) (rs : List Recorder) (o : Except Panic CallResult) :
    exits (r :: rs) o = exits rs o ++ exits [r] o := by
  cases o with
  | ok result => simp [exits]
  | error p => rfl

theorem runs_record_iff {ρ : Type} {R : Resumption} {e : Event} {i i' : Invocation ρ}
    {w w' : World} {o : Except Panic Unit} :
    Runs R (Call.ofAttempt (Work.record e : Work Unit)) i w o i' w' ↔
      o = .ok () ∧ i' = i ∧ w' = w.recordAll [e] := by
  rw [Call.runs_lift_iff]
  show (∃ a, o = .ok a ∧ i' = i ∧ Work.Ends R (.act (World.record e) fun _ => .done ()) w a w') ↔ _
  simp only [Work.ends_act_iff, Work.ends_done_iff]
  constructor
  · rintro ⟨_, rfl, rfl, -, rfl⟩
    exact ⟨rfl, rfl, rfl⟩
  · rintro ⟨rfl, rfl, rfl⟩
    exact ⟨(), rfl, rfl, trivial, rfl⟩

/-- A scripted stage with nothing in its script is a recorder. -/
theorem stage_eq_scripted (s : ScriptedStage) (skippers : List Skipper) (hbefore : s.before = [])
    (hretries : s.retries = 0) (hafter : s.after = []) :
    s.stage skippers = stage
      { name := s.label
        skips := Skipper.any (s.skippers ++ skippers)
        before := .noted (.string (s.label ++ " pre"))
        after := fun r => .noted (.string (s.label ++ " post " ++ ScriptedStage.summary r)) } := by
  have hintercept {ρ : Type} (ctx : CallContext) (next : Next ρ) :
      s.intercept ctx next = (do
        Call.ofAttempt (Work.record (.noted (.string (s.label ++ " pre"))))
        let result ← next.run ctx
        Call.ofAttempt
          (Work.record (.noted (.string (s.label ++ " post " ++ ScriptedStage.summary result))))
        return result : Call ρ CallResult) := by
    unfold ScriptedStage.intercept
    rw [hbefore, hretries, hafter]
    simp only [ScriptedStage.actAll, ScriptedStage.persist, ScriptedStage.note, pure_bind,
      List.foldlM_nil]
  unfold ScriptedStage.stage Stage.skippedBy stage
  congr 1
  funext ρ _ ctx next
  exact hintercept ctx next

/-- One recorder around the rest. -/
theorem runs_intercept_iff {ρ : Type} {R : Resumption} (r : Recorder) {ctx : CallContext}
    {next : Next ρ} {i i' : Invocation ρ} {w w' : World} {o : Except Panic CallResult} :
    Runs R (r.intercept ctx next) i w o i' w' ↔
      ∃ w₁, Runs R (next.run ctx) i (w.recordAll [r.before]) o i' w₁ ∧
        w' = w₁.recordAll (exits [r] o) := by
  unfold intercept
  simp only [Call.runs_bind_iff, runs_record_iff, Call.runs_pure_iff]
  constructor
  · rintro (⟨_, _, _, ⟨-, rfl, rfl⟩, h⟩ | ⟨p, -, h, -⟩)
    · rcases h with ⟨result, i₁, w₁, hrest, h⟩ | ⟨p, rfl, hrest⟩
      · rcases h with ⟨_, _, _, ⟨-, rfl, rfl⟩, rfl, rfl, rfl⟩ | ⟨p, -, h, -⟩
        · exact ⟨w₁, hrest, rfl⟩
        · cases h
      · exact ⟨w', hrest, (World.recordAll_nil w').symm⟩
    · cases h
  · rintro ⟨w₁, hrest, rfl⟩
    refine .inl ⟨(), i, _, ⟨trivial, rfl, rfl⟩, ?_⟩
    cases o with
    | ok result =>
      exact .inl ⟨result, i', w₁, hrest, .inl ⟨(), i', _, ⟨trivial, rfl, rfl⟩, rfl, rfl, rfl⟩⟩
    | error p =>
      refine .inr ⟨p, rfl, ?_⟩
      rwa [show exits [r] (.error p) = [] from rfl, World.recordAll_nil]

end Recorder

namespace Chain

variable {ρ : Type} [Reply ρ] {R : Resumption}

/-- A call through recorders: what those that do not stand aside write on the way in, in order, then
what the center does, then what they write on the way out, in the opposite order. -/
theorem runs_recorders (rs : List Recorder) (center : CallContext → Call ρ CallResult)
    (ctx : CallContext) (i i' : Invocation ρ) (w w' : World) (o : Except Panic CallResult) :
    Runs R (Chain.run (rs.map Recorder.stage) center ctx) i w o i' w' ↔
      ∃ w₁, Runs R (center ctx) i
          (w.recordAll (Recorder.entries (Recorder.present rs i.method i.target))) o i' w₁ ∧
        w' = w₁.recordAll (Recorder.exits (Recorder.present rs i.method i.target) o) := by
  induction rs generalizing w w' with
  | nil =>
    have hexits : Recorder.exits [] o = [] := by cases o <;> rfl
    simp [Recorder.present, Recorder.entries, hexits, World.recordAll_nil]
  | cons r rest ih =>
    have hpresent : Recorder.present (r :: rest) i.method i.target =
        if r.skips i.method i.target then Recorder.present rest i.method i.target
        else r :: Recorder.present rest i.method i.target := by
      unfold Recorder.present
      rw [List.filter_cons]
      cases r.skips i.method i.target <;> rfl
    have hwork := work_run_cons r.stage (rest.map Recorder.stage) center ctx
      (show i.At i.method i.target from ⟨rfl, rfl⟩)
    rw [Runs, List.map_cons, hwork, hpresent]
    show Work.Ends R (if r.skips i.method i.target then _ else _) w (o, i') w' ↔ _
    split
    case isTrue => exact ih w w'
    case isFalse =>
      show Runs R (r.intercept ctx _) i w o i' w' ↔ _
      rw [Recorder.runs_intercept_iff]
      simp only [ih, World.recordAll_recordAll, Recorder.exits_cons r (Recorder.present _ _ _),
        Recorder.entries, List.map_cons]
      constructor
      · rintro ⟨_, ⟨w₁, hcenter, rfl⟩, rfl⟩
        exact ⟨w₁, hcenter, World.recordAll_recordAll _ _ _⟩
      · rintro ⟨w₁, hcenter, rfl⟩
        exact ⟨_, ⟨w₁, hcenter, rfl⟩, (World.recordAll_recordAll _ _ _).symm⟩

/-- Running a chain by position composes its stages.  For stages and a center that leave method and
target alone, those that stand aside may as well not be there, unless a stage reads which are left; and
recorders leave their events in the order of the chain on the way in, and in the opposite order on the
way out. -/
theorem run_composition (chain : Chain) (center : CallContext → Call ρ CallResult) :
    chain.run center = (chain.onion center).run ∧
    (∀ m t : String, (∀ s ∈ chain, s.KeepsPlace) → (∀ s ∈ chain, s.OnlyRuns) →
      (∀ ctx, SameAt m t (center ctx) (center ctx)) →
      ∀ (ctx : CallContext) (i : Invocation ρ), i.At m t →
        (chain.run center ctx).run.run i = ((chain.present m t).run center ctx).run.run i) ∧
    ∀ (R : Resumption) (rs : List Recorder) (ctx : CallContext) (i i' : Invocation ρ) (w w' : World)
      (o : Except Panic CallResult),
      Runs R (Chain.run (rs.map Recorder.stage) center ctx) i w o i' w' ↔
        ∃ w₁, Runs R (center ctx) i
            (w.recordAll (Recorder.entries (Recorder.present rs i.method i.target))) o i' w₁ ∧
          w' = w₁.recordAll (Recorder.exits (Recorder.present rs i.method i.target) o) := by
  refine ⟨run_eq_onion chain center, ?_, ?_⟩
  · intro m t hkeeps honly hcenter ctx i hi
    exact (sameAt_run_present hcenter chain hkeeps honly ctx i hi).1
  · intro R rs ctx i i' w w' o
    exact runs_recorders rs center ctx i i' w w' o

/-- A scripted stage without a script but for what it does before the rest. -/
def labelled (label : String) (skippers : List Skipper) (before : List StageAction) (retries : Nat) :
    ScriptedStage :=
  let site : CallSite := ⟨"stage", 1, ""⟩
  ⟨label, site, site, skippers, before, retries, [], fun _ _ _ next => .nat next.remaining.length⟩

theorem readsNames_labelled (label : String) (skippers : List Skipper) (before : List StageAction)
    (retries : Nat) : (labelled label skippers before retries).ReadsNames := by
  intro ρ w ctx i next next' h
  show Json.nat next.remaining.length = Json.nat next'.remaining.length
  rw [h]

theorem keepsPlace_labelled (label : String) (skippers : List Skipper) {before : List StageAction}
    (hbefore : ∀ method target, .redirect method target ∉ before) (retries : Nat) :
    ((labelled label skippers before retries).stage []).KeepsPlace :=
  ScriptedStage.keepsPlace (readsNames_labelled label skippers before retries) hbefore []

theorem run_composition_secondAside :
    (Chain.run [(labelled "A" [] [] 1).stage [], (labelled "B" [.targets ["/"]] [] 0).stage [],
        RequestId.stage []] Exchange.run (.ofToken ⟨[0]⟩) : Call Json CallResult).run.run
      ((Client.scripted .ok []).invocationOf "GET" "/orders" .empty none []) =
    (Chain.run [(labelled "A" [] [] 1).stage [], RequestId.stage []] Exchange.run
        (.ofToken ⟨[0]⟩) : Call Json CallResult).run.run
      ((Client.scripted .ok []).invocationOf "GET" "/orders" .empty none []) := by
  have hpresent : Chain.present [(labelled "A" [] [] 1).stage [],
      (labelled "B" [.targets ["/"]] [] 0).stage [], RequestId.stage []] "GET" "/orders" =
      [(labelled "A" [] [] 1).stage [], RequestId.stage []] := by
    have hskips : Skipper.any [.targets ["/"]] "GET" "/orders" = true := by decide
    rw [present_cons, present_cons, present_cons]
    show (if Skipper.any [] "GET" "/orders" then _ else _ :: (if Skipper.any [.targets ["/"]] "GET"
      "/orders" then _ else _)) = _
    rw [hskips]
    rfl
  rw [← hpresent]
  refine (run_composition _ Exchange.run).2.1 "GET" "/orders" ?_ ?_ ?_ _ _ ⟨rfl, rfl⟩
  · simp only [List.forall_mem_cons]
    refine ⟨keepsPlace_labelled _ _ (by simp) _, keepsPlace_labelled _ _ (by simp) _,
      Builtin.keepsPlace .requestId [], by simp⟩
  · simp only [List.forall_mem_cons]
    refine ⟨ScriptedStage.onlyRuns (by simp [labelled]) [],
      ScriptedStage.onlyRuns (by simp [labelled]) [], Builtin.onlyRuns .requestId [], by simp⟩
  · exact fun ctx => Exchange.sameAt_run

/-- Leaving out the stages that stand aside is seen by a stage that reads which stages are left, and by
a stage that runs the rest again after the center has changed the target. -/
theorem present_needs_stillness :
    (¬ ∀ (chain : Chain) (center : CallContext → Call Json CallResult) (m t : String),
      (∀ s ∈ chain, s.KeepsPlace) → (∀ ctx, SameAt m t (center ctx) (center ctx)) →
      ∀ (ctx : CallContext) (i : Invocation Json), i.At m t →
        (chain.run center ctx).run.run i = ((chain.present m t).run center ctx).run.run i) ∧
    ¬ ∀ (chain : Chain) (center : CallContext → Call Json CallResult) (m t : String),
      (∀ s ∈ chain, s.KeepsPlace) → (∀ s ∈ chain, s.OnlyRuns) →
      ∀ (ctx : CallContext) (i : Invocation Json), i.At m t →
        (chain.run center ctx).run.run i = ((chain.present m t).run center ctx).run.run i := by
  have hat : ((Client.scripted .ok []).invocationOf "GET" "/orders" .empty none [] :
      Invocation Json).At "GET" "/orders" := ⟨rfl, rfl⟩
  have haside : Skipper.any [.targets ["/orders"]] "GET" "/orders" = true := by decide
  have hpresent (before : List StageAction) (retries : Nat) :
      Chain.present [(labelled "A" [] before retries).stage [],
        (labelled "B" [.targets ["/orders"]] [] 0).stage []] "GET" "/orders" =
      [(labelled "A" [] before retries).stage []] := by
    rw [present_cons, present_cons]
    show (if Skipper.any [] "GET" "/orders" then _ else _ :: (if Skipper.any [.targets ["/orders"]]
      "GET" "/orders" then _ else _)) = _
    rw [haside]
    rfl
  have hkeeps (before : List StageAction) (retries : Nat)
      (hbefore : ∀ method target, .redirect method target ∉ before) :
      ∀ s ∈ [(labelled "A" [] before retries).stage [],
        (labelled "B" [.targets ["/orders"]] [] 0).stage []], s.KeepsPlace := by
    simp only [List.forall_mem_cons]
    exact ⟨keepsPlace_labelled _ _ hbefore _, keepsPlace_labelled _ _ (by simp) _, by simp⟩
  constructor
  · -- the observer counts the stage that stands aside
    intro h
    have hsame := h [(labelled "A" [] [.observe] 0).stage [],
      (labelled "B" [.targets ["/orders"]] [] 0).stage []] (fun _ => pure (.ok .empty))
      "GET" "/orders" (hkeeps [.observe] 0 (by simp)) (fun _ => SameAt.pure _) (.ofToken ⟨[0]⟩) _ hat
    rw [hpresent, run_eq_onion, run_eq_onion] at hsame
    have hjournal : some [_, Event.noted (.nat 1), _] = some [_, .noted (.nat 0), _] :=
      congrArg (fun t => (t.run .initial).map (·.2.journal)) hsame
    simp [Json.nat] at hjournal
  · -- on the second run the target has changed, and the stage no longer stands aside
    intro h
    have hsame := h [(labelled "A" [] [] 1).stage [],
      (labelled "B" [.targets ["/orders"]] [] 0).stage []]
      (fun _ => do
        modify fun i => { i with target := "/elsewhere" }
        return .error (.new
          (Fault.ofStack (.new ⟨"localhost", 1, "service", .oneFile "library"⟩) 0 "" [])))
      "GET" "/orders" (hkeeps [] 1 (by simp)) ?_ (.ofToken ⟨[0]⟩) _ hat
    · rw [hpresent, run_eq_onion, run_eq_onion] at hsame
      have hlength : some 5 = some 3 :=
        congrArg (fun t => (t.run .initial).map (·.2.journal.length)) hsame
      cases hlength
    · simp only [List.forall_mem_cons]
      exact ⟨ScriptedStage.onlyRuns (by simp [labelled]) [],
        ScriptedStage.onlyRuns (by simp [labelled]) [], by simp⟩

end Chain

end CallChain
