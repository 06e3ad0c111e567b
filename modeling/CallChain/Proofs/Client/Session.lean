import CallChain.Client.Session
import CallChain.Proofs.Chain.Override
import CallChain.Proofs.Client.Invoke
import CallChain.Proofs.Config.Client

/-!
# Which chain a call runs

The stages of a call are looked up at one of two times: when the client was built, or when the call is made
if an option names stages.  Either way a name stands for the first maker that was registered for it by then
(`Catalog.firstMaker?`), since a name is never given anew.  `Session.Resolved` says so of a session.
-/

set_option autoImplicit false

namespace CallChain

/-! ## What names stand for -/

/-- The maker that a step offers under a name. -/
def SessionStep.offered? : SessionStep → Option (String × StageMaker)
  | .register name maker => some (name, maker)
  | .registerStage name stage => some (name, fun _ => stage)
  | _ => none

namespace Catalog

/-- The maker of a name after steps: the one in the catalog they start with, or the first one offered. -/
def firstMaker? (start : Catalog) (steps : List SessionStep) (name : String) : Option StageMaker :=
  (start.makers.get? name).or ((steps.filterMap SessionStep.offered?).lookup name)

/-- The chain that names stand for after steps; those that stand for nothing are dropped. -/
def chainAfter (start : Catalog) (steps : List SessionStep) (names : List String)
    (skippers : List Skipper) : Chain :=
  names.filterMap fun n => (start.firstMaker? steps n).map fun make => make skippers

/-- The warnings about names that stand for nothing after steps. -/
def warningsAfter (start : Catalog) (steps : List SessionStep) (names : List String) : List LogRecord :=
  (names.filter fun n => (start.firstMaker? steps n).isNone).map unknownWarning

theorem register_eq (c : Catalog) (name : String) (maker : StageMaker) :
    c.register name maker = match c.makers.get? name with
      | some _ => .error (.duplicateStage name)
      | none => .ok ⟨c.makers.insert name maker⟩ := by
  unfold register SortedMap.contains
  cases c.makers.get? name <;> rfl

/-- A name is refused exactly when it is taken. -/
theorem register_eq_error_iff {c : Catalog} {name : String} {maker : StageMaker} {e : ConfigError} :
    c.register name maker = .error e ↔ (c.makers.get? name).isSome ∧ e = .duplicateStage name := by
  rw [register_eq]
  cases c.makers.get? name <;> simp [eq_comm]

theorem firstMaker?_append (start : Catalog) (steps more : List SessionStep) (name : String) :
    start.firstMaker? (steps ++ more) name =
      (start.firstMaker? steps name).or ((more.filterMap SessionStep.offered?).lookup name) := by
  rw [firstMaker?, List.filterMap_append, List.lookup_append, firstMaker?, Option.or_assoc]

theorem chainOf_eq_chainAfter {c start : Catalog} {steps : List SessionStep}
    (h : ∀ name, c.makers.get? name = start.firstMaker? steps name) (names : List String)
    (skippers : List Skipper) : c.chainOf names skippers = start.chainAfter steps names skippers := by
  simp only [chainOf, chainAfter, h]

theorem warnings_eq_warningsAfter {c start : Catalog} {steps : List SessionStep}
    (h : ∀ name, c.makers.get? name = start.firstMaker? steps name) (names : List String) :
    c.warnings names = start.warningsAfter steps names := by
  simp only [warnings, warningsAfter, contains, SortedMap.contains, h, Option.not_isSome]

end Catalog

namespace Session

/-- The session after steps that begin with a catalog and no clients. -/
def after (start : Catalog) (w : World) (steps : List SessionStep) : Session :=
  performAll ⟨start, [], w⟩ steps

theorem lookup_singleton_of_ne {n name : String} (h : n ≠ name) (maker : StageMaker) :
    [(name, maker)].lookup n = none := by
  rw [List.lookup_cons, beq_false_of_ne h]
  rfl

theorem get?_update_register (s : Session) (name : String) (maker : StageMaker) (n : String) :
    (s.update (s.catalog.register name maker)).catalog.makers.get? n =
      (s.catalog.makers.get? n).or ([(name, maker)].lookup n) := by
  rw [Catalog.register_eq]
  cases hname : s.catalog.makers.get? name with
  | some present =>
    show s.catalog.makers.get? n = _
    by_cases hn : n = name
    · rw [hn, hname, Option.some_or]
    · rw [lookup_singleton_of_ne hn, Option.or_none]
  | none =>
    show (s.catalog.makers.insert name maker).get? n = _
    rw [SortedMap.get?_insert]
    by_cases hn : n = name
    · rw [if_pos hn, hn, hname, List.lookup_cons_self, Option.none_or]
    · rw [if_neg hn, lookup_singleton_of_ne hn, Option.or_none]

theorem catalog_call {ρ : Type} [Reply ρ] (s : Session) (n : Nat) (q : CallRequest ρ) :
    (s.call n q).catalog = s.catalog ∧ (s.call n q).clients = s.clients := by
  unfold call
  split <;> exact ⟨rfl, rfl⟩

/-- A step offers one maker at most, which counts unless the name has one. -/
theorem get?_perform (s : Session) (step : SessionStep) (name : String) :
    (s.perform step).catalog.makers.get? name =
      (s.catalog.makers.get? name).or (step.offered?.toList.lookup name) := by
  cases step with
  | register n maker => exact get?_update_register s n maker name
  | registerStage n stage => exact get?_update_register s n (fun _ => stage) name
  | build b codes connector site => exact Option.or_none.symm
  | call n ρ q =>
    rw [perform, (catalog_call s n q).1]
    exact Option.or_none.symm

/-- A name has the first maker that was registered for it. -/
theorem get?_performAll (s : Session) (steps : List SessionStep) (name : String) :
    (s.performAll steps).catalog.makers.get? name = s.catalog.firstMaker? steps name := by
  induction steps generalizing s with
  | nil => exact Option.or_none.symm
  | cons step rest ih =>
    show ((s.perform step).performAll rest).catalog.makers.get? name = _
    rw [ih, Catalog.firstMaker?, get?_perform, Option.or_assoc, ← List.lookup_append,
      Catalog.firstMaker?]
    cases h : step.offered? <;> simp [h]

theorem update_register_of_taken {s : Session} {name : String}
    (h : (s.catalog.makers.get? name).isSome) (maker : StageMaker) :
    s.update (s.catalog.register name maker) = s := by
  obtain ⟨present, hpresent⟩ := Option.isSome_iff_exists.mp h
  rw [Catalog.register_eq, hpresent]
  rfl

theorem clients_update (s : Session) (r : Except ConfigError Catalog) :
    (s.update r).clients = s.clients := by
  cases r <;> rfl

theorem prefix_clients_perform (s : Session) (step : SessionStep) :
    s.clients <+: (s.perform step).clients := by
  cases step with
  | register name maker => exact ⟨[], (List.append_nil _).trans (clients_update s _).symm⟩
  | registerStage name stage => exact ⟨[], (List.append_nil _).trans (clients_update s _).symm⟩
  | build b codes connector site => exact List.prefix_append _ _
  | call n ρ q => exact ⟨[], (List.append_nil _).trans (catalog_call s n q).2.symm⟩

/-- Clients keep their numbers. -/
theorem prefix_clients_performAll (s : Session) (steps : List SessionStep) :
    s.clients <+: (s.performAll steps).clients := by
  induction steps generalizing s with
  | nil => exact List.prefix_refl _
  | cons step rest ih => exact (prefix_clients_perform s step).trans (ih (s.perform step))

/-- A client that was built keeps its number. -/
theorem getElem?_clients_of_build {s : Session} {b : ClientBuilder} {codes : CodeRegistry}
    {connector : Connector} {site : CallSite} {c : Client}
    (h : (b.build s.catalog codes connector site).1 = .ok c) (more : List SessionStep) :
    ((s.perform (.build b codes connector site)).performAll more).clients[s.clients.length]? =
      some c := by
  have hbuilt : (s.perform (.build b codes connector site)).clients = s.clients ++ [c] := by
    show s.clients ++ (b.build s.catalog codes connector site).1.toOption.toList = _
    rw [h]
    rfl
  obtain ⟨rest, hrest⟩ := prefix_clients_performAll (s.perform (.build b codes connector site)) more
  rw [← hrest, hbuilt, List.append_assoc, List.getElem?_append_right (Nat.le_refl _), Nat.sub_self]
  rfl

end Session

/-! ## The work of a call -/

namespace Client

variable {ρ : Type} [Reply ρ] (c : Client) (q : CallRequest ρ)

/-- The work of a call through a chain. -/
def through (chain : Chain) : Work (Except Panic CallResult × Option ρ) :=
  ((chain.run Exchange.run q.context).run.run
    (c.invocationOf q.method q.target q.body q.reply q.options)).bind fun r =>
      .done (r.1, r.2.reply.value?)

/-- The work of a call through a chain, after warnings. -/
def throughWarned (warnings : List LogRecord) (chain : Chain) :
    Work (Except Panic CallResult × Option ρ) := do
  for r in warnings do
    Work.record (.logged r)
  c.through q chain

theorem make_eq (catalog : Catalog) :
    c.make catalog q =
      c.throughWarned q (c.chainFor catalog (c.optionsOf q.options)).2
        (c.chainFor catalog (c.optionsOf q.options)).1 := rfl

/-- The names that the options of a call give its stages: the last such option counts. -/
theorem chainFor_eq (catalog : Catalog) (options : List CallOption) :
    c.chainFor catalog (c.optionsOf options) =
      match ((c.options ++ options).filterMap CallOption.stages?).getLast? with
      | some names => (catalog.chainOf names c.skippers, catalog.warnings names)
      | none => (c.chain, []) := by
  have hstages : (CallInfo.ofOptions (c.optionsOf options)).stages =
      ((c.options ++ options).filterMap CallOption.stages?).getLast? := by
    rw [optionsOf, CallInfo.ofOptions_combine, (CallInfo.means_ofOptions _).stages]
  show (match (CallInfo.ofOptions (c.optionsOf options)).stages with
    | some names => (catalog.chainOf names c.skippers, catalog.warnings names)
    | none => (c.chain, [])) = _
  rw [hstages]

/-- Calls through chains whose stages do the same are the same. -/
theorem through_eq_of_echoes {chain chain' : Chain} (h : List.Forall₂ Stage.Echoes chain chain') :
    c.through q chain = c.through q chain' := by
  refine (Chain.concur_run h q.context _ _ (Invocation.Kin.refl _)).bind_done_eq ?_
  rintro ⟨o, i⟩ ⟨o', j⟩ ⟨ho, hkin⟩
  obtain ⟨⟨options, rfl⟩, -⟩ := hkin
  exact congrArg (·, i.reply.value?) ho

end Client

/-! ## Sessions -/

namespace Session

/-- What holds of a session after steps. -/
structure Resolved (start : Catalog) (w : World) (steps : List SessionStep) : Prop where
  /-- A name has the first maker that was registered for it. -/
  maker : ∀ name, (after start w steps).catalog.makers.get? name = start.firstMaker? steps name
  /-- A registration fails exactly when the name has a maker. -/
  refused : ∀ name maker e, (after start w steps).catalog.register name maker = .error e ↔
    (start.firstMaker? steps name).isSome ∧ e = .duplicateStage name
  refusedStage : ∀ name stage e, (after start w steps).catalog.registerStage name stage = .error e ↔
    (start.firstMaker? steps name).isSome ∧ e = .duplicateStage name
  /-- A registration that fails changes nothing. -/
  unchanged : ∀ name, (start.firstMaker? steps name).isSome →
    (∀ maker, (after start w steps).perform (.register name maker) = after start w steps) ∧
      ∀ stage, (after start w steps).perform (.registerStage name stage) = after start w steps
  /-- A name keeps its maker. -/
  kept : ∀ name maker, (after start w steps).catalog.makers.get? name = some maker → ∀ more,
    (after start w (steps ++ more)).catalog.makers.get? name = some maker
  /-- A call runs the chain of the names that its last override gives, looked up now, or else the chain of
  the names of its client, looked up when that was built. -/
  call : ∀ before b codes connector site between c,
    steps = before ++ .build b codes connector site :: between →
    (b.build (after start w before).catalog codes connector site).1 = .ok c →
      (after start w steps).clients[(after start w before).clients.length]? = some c ∧
        ∀ {ρ : Type} [Reply ρ] (q : CallRequest ρ),
          c.make (after start w steps).catalog q =
            match ((b.options ++ q.options).filterMap CallOption.stages?).getLast? with
            | some names => c.throughWarned q (start.warningsAfter steps names)
                (start.chainAfter steps names b.skippers)
            | none => c.through q (start.chainAfter before b.stageNames b.skippers)

/-- What naming stages comes to once a call is under way. -/
structure NamedInVain : Prop where
  /-- Whatever a stage names, behind it runs the rest of the chain. -/
  rest : ∀ {ρ : Type} [Reply ρ] (s : Stage) (names : List String) (rest : Chain) (ctx : CallContext),
    (Chain.run (s.naming names :: rest) Exchange.run ctx : Call ρ CallResult) = do
      let i ← get
      if s.skips i.method i.target then Chain.run rest Exchange.run ctx
      else do
        modify fun i => i.push (.stages names)
        s.intercept ctx ⟨rest.map Stage.name, Chain.run rest Exchange.run⟩
  /-- Among stages that do not ask for names, it makes no difference to the call. -/
  same : ∀ {ρ : Type} [Reply ρ] (c : Client) (q : CallRequest ρ) (outer : Chain) (s : Stage)
    (names : List String) (inner : Chain), (∀ s' ∈ outer ++ s :: inner, s'.Echoes s') →
    c.through q (outer ++ s.naming names :: inner) = c.through q (outer ++ s :: inner)
  /-- The stages of the library do not ask for names. -/
  library : ∀ (b : Builtin) (skippers : List Skipper), (b.stage skippers).Echoes (b.stage skippers)

theorem namedInVain : NamedInVain where
  rest s names rest ctx := by
    rw [Chain.run_cons]
    rfl
  same c q outer s names inner h := by
    have hsame {chain : Chain} (hchain : ∀ s' ∈ chain, s'.Echoes s') :
        List.Forall₂ Stage.Echoes chain chain := List.forall₂_same.mpr hchain
    rw [List.forall_mem_append, List.forall_mem_cons] at h
    obtain ⟨houter, hs, hinner⟩ := h
    exact c.through_eq_of_echoes q
      (List.rel_append (hsame houter) (.cons (hs.naming names) (hsame hinner)))
  library := Builtin.echoes

theorem after_append (start : Catalog) (w : World) (steps more : List SessionStep) :
    after start w (steps ++ more) = (after start w steps).performAll more := by
  rw [after, performAll, List.foldl_append]
  rfl

/-- In every session calls run the chains that their options and clients name, a stage that names others
during a call names them in vain, and a name once registered keeps its maker. -/
theorem resolved_and_namedInVain (start : Catalog) (w : World) (steps : List SessionStep) :
    Resolved start w steps ∧ NamedInVain := by
  have hmaker (steps : List SessionStep) (name : String) :
      (after start w steps).catalog.makers.get? name = start.firstMaker? steps name :=
    get?_performAll ⟨start, [], w⟩ steps name
  have htaken (name : String) (h : (start.firstMaker? steps name).isSome) :
      ((after start w steps).catalog.makers.get? name).isSome := by
    rwa [hmaker]
  refine ⟨⟨hmaker steps, fun name maker e => ?_, fun name stage e => ?_, fun name h => ⟨?_, ?_⟩,
    fun name maker h more => ?_, ?_⟩, namedInVain⟩
  · rw [Catalog.register_eq_error_iff, hmaker]
  · rw [Catalog.registerStage, Catalog.register_eq_error_iff, hmaker]
  · exact fun maker => update_register_of_taken (htaken name h) maker
  · exact fun stage => update_register_of_taken (htaken name h) fun _ => stage
  · rw [hmaker] at h ⊢
    rw [Catalog.firstMaker?_append, h, Option.some_or]
  · rintro before b codes connector site between c rfl hbuilt
    constructor
    · rw [after_append]
      exact getElem?_clients_of_build hbuilt between
    · intro ρ _ q
      obtain ⟨-, -, rfl⟩ := ClientBuilder.build_eq_ok_iff.mp hbuilt
      rw [Client.make_eq, Client.chainFor_eq]
      dsimp only
      cases ((b.options ++ q.options).filterMap CallOption.stages?).getLast? with
      | some names =>
        dsimp only
        have hnow := hmaker (before ++ .build b codes connector site :: between)
        rw [Catalog.chainOf_eq_chainAfter hnow, Catalog.warnings_eq_warningsAfter hnow]
      | none =>
        dsimp only
        rw [Catalog.chainOf_eq_chainAfter (hmaker before)]
        rfl

def auditedBuilder : ClientBuilder := (ClientBuilder.new "http://orders.test").withStages ["audit"]

/-- A client is built with a name that has no stage yet; the stage is registered after that. -/
def lateSteps : List SessionStep :=
  [.build auditedBuilder (.new ⟨"localhost", 1, "orders", .oneFile "library"⟩)
      ScriptedRemote.ok.connector ⟨"src/main.rs", 20, "main"⟩,
    .registerStage "audit" (AccessLog.stage [])]

/-- A call with the given options and without a reply. -/
def plainCall (options : List CallOption) : CallRequest Json :=
  ⟨.ofToken ⟨[0]⟩, "GET", "/v1/orders", .empty, none, options⟩

/-- The client goes on without the stage; a call that names it has it as often as it names it. -/
theorem resolved_and_namedInVain_late :
    ∃ c, (after .standard .initial lateSteps).clients[0]? = some c ∧
      c.make (after .standard .initial lateSteps).catalog (plainCall []) =
        c.through (plainCall []) [] ∧
      c.make (after .standard .initial lateSteps).catalog
          (plainCall [.stages ["audit", "gone", "audit"]]) =
        c.throughWarned (plainCall [.stages ["audit", "gone", "audit"]])
          [Catalog.unknownWarning "gone"] [AccessLog.stage [], AccessLog.stage []] := by
  obtain ⟨hresolved, -⟩ := resolved_and_namedInVain .standard .initial lateSteps
  have hbuilt : (auditedBuilder.build .standard (.new ⟨"localhost", 1, "orders", .oneFile "library"⟩)
      ScriptedRemote.ok.connector ⟨"src/main.rs", 20, "main"⟩).1 = .ok _ :=
    ClientBuilder.build_eq_ok_iff.mpr ⟨by decide, .inr ⟨rfl, .inl rfl⟩, rfl⟩
  obtain ⟨hclient, hmake⟩ := hresolved.call [] _ _ _ _ _ _ rfl hbuilt
  exact ⟨_, hclient, hmake (plainCall []), hmake (plainCall [.stages ["audit", "gone", "audit"]])⟩

end Session

end CallChain
