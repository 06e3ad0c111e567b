import CallChain.Proofs.Chain.Composition
import CallChain.Proofs.Client.Panic
import CallChain.Proofs.Client.Resolved
import CallChain.Proofs.Client.Session

/-!
# Calls that the stages stand aside for

Every stage of the library is made with the skippers of its client and stands aside for what they match.
At one place all of them stand aside or none does, and they leave a call at its place, so a chain of them
runs like the chain of those that act, made without skippers (`Chain.sameAt_run_acting`).  Hence a call that
a skipper matches is a call of a client without stages, which is the exchange and nothing else, and any other
call is one of a client without skippers.  The calls are the same piece of work, down to every step.

The names of a chain are looked up in a catalog, which may hold stages of other makers beside those of the
library; `Catalog.NamesBuiltins` says that these names stand for none of them.
-/

set_option autoImplicit false

namespace CallChain

open Call (SameAt)

/-! ## Chains -/

theorem Skipper.any_eq_true_iff {skippers : List Skipper} {m t : String} :
    any skippers m t = true ↔ ∃ s ∈ skippers, s.skips m t = true := List.any_eq_true

theorem Skipper.any_eq_false_iff {skippers : List Skipper} {m t : String} :
    any skippers m t = false ↔ ∀ s ∈ skippers, s.skips m t = false := by
  simp [any]

theorem Fitted.acting_map_of_skips (bs : List Builtin) {skippers : List Skipper} {m t : String}
    (h : Skipper.any skippers m t = true) : acting (bs.map fun b => ⟨b, skippers⟩) m t = [] := by
  induction bs with
  | nil => rfl
  | cons b bs ih => rw [List.map_cons, acting_cons_of_skips h, ih]

/-- A chain of stages of the library runs at a place like the chain of those that act there. -/
theorem Chain.sameAt_run_acting {ρ : Type} [Reply ρ] {m t : String}
    {center : CallContext → Call ρ CallResult}
    (hcenter : ∀ ctx, SameAt m t (center ctx) (center ctx)) (fs : List Fitted) (ctx : CallContext) :
    SameAt m t (run (fs.map Fitted.stage) center ctx)
      (run ((Fitted.acting fs m t).map (Builtin.stage · [])) center ctx) := by
  -- a stage around them can depend on no more of the stages inside than what they do at the place
  induction fs generalizing ctx with
  | nil => simpa using hcenter ctx
  | cons f fs ih =>
    intro i hi
    rw [List.map_cons, work_run_cons f.stage _ center ctx hi, Fitted.stage, Builtin.skips_stage]
    cases hskip : Skipper.any f.skippers m t with
    | true =>
      rw [if_pos rfl, Fitted.acting_cons_of_skips hskip]
      exact ih ctx i hi
    | false =>
      rw [if_neg Bool.false_ne_true, Fitted.acting_cons_of_acts hskip, List.map_cons,
        work_run_cons _ _ center ctx hi, Builtin.skips_stage, if_neg (by simp [Skipper.any])]
      let names := (fs.map Fitted.stage).map Stage.name
      have hstage := f.builtin.keepsPlace [] m t ⟨names, run (fs.map Fitted.stage) center⟩
        ⟨names, run ((Fitted.acting fs m t).map (Builtin.stage · [])) center⟩ rfl ih ctx i hi
      -- fewer stages are left among those that act, but none of these looks at them
      rw [f.builtin.onlyRuns [] ctx ⟨_, run ((Fitted.acting fs m t).map (Builtin.stage · [])) center⟩ names]
      rw [Builtin.intercept_stage] at hstage ⊢
      exact hstage

/-! ## Names -/

namespace Catalog

/-- What is known of names is that they stand for stages of the library. -/
def NamesBuiltins (catalog : Catalog) (names : List String) : Prop :=
  ∀ n ∈ names, ∀ make, catalog.makers.get? n = some make → ∃ b : Builtin, make = b.stage

variable {catalog : Catalog} {names : List String}

theorem namesBuiltins_standard (names : List String) : standard.NamesBuiltins names := by
  intro n _ make hmake
  rw [get?_standard, Option.map_eq_some_iff] at hmake
  obtain ⟨b, -, rfl⟩ := hmake
  exact ⟨b, rfl⟩

/-- The names stand for the same stages whatever the skippers. -/
theorem NamesBuiltins.exists_builtins (h : catalog.NamesBuiltins names) :
    ∃ bs : List Builtin, ∀ skippers, catalog.chainOf names skippers = bs.map (Builtin.stage · skippers) := by
  induction names with
  | nil => exact ⟨[], fun _ => rfl⟩
  | cons n names ih =>
    obtain ⟨bs, hbs⟩ := ih fun n' hn' => h n' (List.mem_cons_of_mem n hn')
    cases hmake : catalog.makers.get? n with
    | none =>
      refine ⟨bs, fun skippers => ?_⟩
      rw [← hbs]
      simp [chainOf, hmake]
    | some make =>
      obtain ⟨b, rfl⟩ := h n List.mem_cons_self make hmake
      refine ⟨b :: bs, fun skippers => ?_⟩
      rw [List.map_cons, ← hbs]
      simp [chainOf, hmake]

end Catalog

/-! ## Calls -/

namespace Client

variable {ρ : Type} [Reply ρ] {c d : Client} {q : CallRequest ρ}

/-- Chains that run alike at the place of a call do the same work for it. -/
theorem through_congr {chain chain' : Chain}
    (h : SameAt q.method q.target (chain.run Exchange.run q.context : Call ρ CallResult)
      (chain'.run Exchange.run q.context)) : c.through q chain = c.through q chain' := by
  have hsame := (h (c.invocationOf q.method q.target q.body q.reply q.options) ⟨rfl, rfl⟩).1
  rw [through, through, hsame]

/-- Of a client a call through a given chain depends on the settings and the options. -/
theorem throughWarned_eq_of_settings (hsettings : c.settings = d.settings) (hoptions : c.options = d.options)
    (catalog : Catalog) (chain : Chain) :
    c.throughWarned q (c.chainFor catalog (c.optionsOf q.options)).2 chain =
      d.throughWarned q (d.chainFor catalog (d.optionsOf q.options)).2 chain := by
  have hwarnings : (c.chainFor catalog (c.optionsOf q.options)).2 =
      (d.chainFor catalog (d.optionsOf q.options)).2 := by
    rw [chainFor_eq, chainFor_eq, hoptions]
    cases ((d.options ++ q.options).filterMap CallOption.stages?).getLast? <;> rfl
  rw [hwarnings]
  simp only [throughWarned, through, invocationOf, optionsOf, hsettings, hoptions]

/-- A call goes through those stages of the library that act where it is made. -/
theorem make_eq_throughWarned_acting {catalog : Catalog} {bs : List Builtin}
    (h : c.HasChain catalog q.options bs) :
    c.make catalog q = c.throughWarned q (c.chainFor catalog (c.optionsOf q.options)).2
      ((Fitted.acting (bs.map fun b => ⟨b, c.skippers⟩) q.method q.target).map (Builtin.stage · [])) := by
  rw [make_eq, h.resolves, throughWarned, throughWarned,
    through_congr (Chain.sameAt_run_acting (fun _ => Exchange.sameAt_run) _ _)]

theorem make_of_skips {catalog : Catalog} {bs : List Builtin} (h : c.HasChain catalog q.options bs)
    (hskip : Skipper.any c.skippers q.method q.target = true) :
    c.make catalog q = c.throughWarned q (c.chainFor catalog (c.optionsOf q.options)).2 [] := by
  rw [make_eq_throughWarned_acting h, Fitted.acting_map_of_skips bs hskip, List.map_nil]

theorem make_of_acts {catalog : Catalog} {bs : List Builtin} (h : c.HasChain catalog q.options bs)
    (hacts : Skipper.any c.skippers q.method q.target = false) :
    c.make catalog q = c.throughWarned q (c.chainFor catalog (c.optionsOf q.options)).2
      (bs.map (Builtin.stage · [])) := by
  rw [make_eq_throughWarned_acting h, Fitted.acting_map bs hacts]

end Client

namespace ClientBuilder

variable {b : ClientBuilder} {built catalog : Catalog} {site : CallSite}

/-- Whether a client can be built depends neither on the names of its stages nor on the skippers. -/
theorem exists_build {codes : CodeRegistry} {connector : Connector} {c : Client}
    (hc : (b.build built codes connector site).1 = .ok c) (names : List String)
    (skippers : List Skipper) :
    ∃ d, (((b.withStages names).withSkippers skippers).build built codes connector site).1 = .ok d ∧
      d.settings = c.settings ∧ d.options = c.options ∧ d.skippers = skippers := by
  obtain ⟨hfilled, hcomplete, rfl⟩ := build_eq_ok_iff.mp hc
  exact ⟨_, build_eq_ok_iff.mpr ⟨hfilled, hcomplete, rfl⟩, rfl, rfl, rfl⟩

/-- Where the names stand for stages of the library, these are the chain of a call, whatever the skippers. -/
theorem exists_hasChain (codes : CodeRegistry) (connector : Connector)
    (hnames : built.NamesBuiltins b.stageNames) {options : List CallOption}
    (hoptions : ∀ names ∈ (CallInfo.ofOptions (CallOption.combine b.options options)).stages,
      catalog.NamesBuiltins names) :
    ∃ bs, ∀ skippers site c, ((b.withSkippers skippers).build built codes connector site).1 = .ok c →
      c.HasChain catalog options bs := by
  cases hstages : (CallInfo.ofOptions (CallOption.combine b.options options)).stages with
  | some names =>
    obtain ⟨bs, hbs⟩ := (hoptions names hstages).exists_builtins
    refine ⟨bs, fun skippers site c hc => ?_⟩
    obtain ⟨-, -, rfl⟩ := build_eq_ok_iff.mp hc
    simp only [Client.HasChain, Client.chainFor, Client.optionsOf, withSkippers, hstages]
    exact hbs skippers
  | none =>
    obtain ⟨bs, hbs⟩ := hnames.exists_builtins
    refine ⟨bs, fun skippers site c hc => ?_⟩
    obtain ⟨-, -, rfl⟩ := build_eq_ok_iff.mp hc
    simp only [Client.HasChain, Client.chainFor, Client.optionsOf, withSkippers, hstages]
    exact hbs skippers

end ClientBuilder

/-- A call that a skipper matches is the call of a client without stages, in which there is the exchange and
nothing around it that could catch a panic; one that none matches is the call of a client without skippers. -/
theorem Client.make_skipping {b : ClientBuilder} {built : Catalog} {codes : CodeRegistry}
    {connector : Connector} {site : CallSite} {c : Client} (hnames : built.NamesBuiltins b.stageNames)
    (hc : (b.build built codes connector site).1 = .ok c) :
    ∃ bare eager, ((b.withStages []).build built codes connector site).1 = .ok bare ∧
      ((b.withSkippers []).build built codes connector site).1 = .ok eager ∧
      ∀ {ρ : Type} [Reply ρ] (catalog : Catalog) (q : CallRequest ρ),
        (∀ names ∈ (CallInfo.ofOptions (c.optionsOf q.options)).stages, catalog.NamesBuiltins names) →
        ((∃ s ∈ b.skippers, s.skips q.method q.target = true) →
          c.make catalog q = bare.make catalog q ∧
          bare.make catalog q =
            bare.throughWarned q (bare.chainFor catalog (bare.optionsOf q.options)).2 []) ∧
        ((∀ s ∈ b.skippers, s.skips q.method q.target = false) →
          c.make catalog q = eager.make catalog q) := by
  obtain ⟨-, -, hclient⟩ := ClientBuilder.build_eq_ok_iff.mp hc
  have hoptions : c.options = b.options := congrArg Client.options hclient
  have hskippers : c.skippers = b.skippers := congrArg Client.skippers hclient
  obtain ⟨bare, hbare, hbareSettings, hbareOptions, hbareSkippers⟩ :=
    ClientBuilder.exists_build hc [] b.skippers
  obtain ⟨eager, heager, heagerSettings, heagerOptions, heagerSkippers⟩ :=
    ClientBuilder.exists_build hc b.stageNames []
  refine ⟨bare, eager, hbare, heager, fun {ρ} _ catalog q hcall => ?_⟩
  rw [optionsOf, hoptions] at hcall
  obtain ⟨bs, hbs⟩ := ClientBuilder.exists_hasChain codes connector hnames hcall
  constructor
  case left =>
    intro hmatches
    have hskips : Skipper.any b.skippers q.method q.target = true := Skipper.any_eq_true_iff.mpr hmatches
    have hnone : built.NamesBuiltins (b.withStages []).stageNames := by rintro n ⟨⟩
    obtain ⟨bs', hbs'⟩ := ClientBuilder.exists_hasChain codes connector hnone hcall
    have hbareExchange := make_of_skips (hbs' b.skippers site bare hbare) (hbareSkippers ▸ hskips)
    refine ⟨?_, hbareExchange⟩
    rw [hbareExchange, make_of_skips (hbs b.skippers site c hc) (hskippers ▸ hskips)]
    exact throughWarned_eq_of_settings hbareSettings.symm hbareOptions.symm catalog []
  case right =>
    intro hnone
    have hacts : Skipper.any b.skippers q.method q.target = false := Skipper.any_eq_false_iff.mpr hnone
    rw [make_of_acts (hbs b.skippers site c hc) (hskippers ▸ hacts),
      make_of_acts (hbs [] site eager heager) (by rw [heagerSkippers]; rfl)]
    exact throughWarned_eq_of_settings heagerSettings.symm heagerOptions.symm catalog _

namespace Client

/-- A client that recovers from panics, but for what is asked of `/health`. -/
def recoveringBuilder : ClientBuilder :=
  ((ClientBuilder.new "http://service.test").withStages ["logging", "recovery"]).withSkippers
    [.methods ["options"], .targets ["/health"]]

/-- A call without a reply. -/
def getCall (target : String) : CallRequest Json := ⟨.ofToken ⟨[0]⟩, "GET", target, .empty, none, []⟩

/-- The panic of the remote side gets through to the caller who asks for `/health/live`. -/
theorem make_skipping_recovering :
    let codes := CodeRegistry.new ⟨"localhost", 1, "service", .oneFile "library"⟩
    let site := ⟨"src/main.rs", 20, "main"⟩
    ∃ c bare eager,
      (recoveringBuilder.build .standard codes crashing.connector site).1 = .ok c ∧
      ((recoveringBuilder.withStages []).build .standard codes crashing.connector site).1 = .ok bare ∧
      ((recoveringBuilder.withSkippers []).build .standard codes crashing.connector site).1 = .ok eager ∧
      c.make .standard (getCall "/health/live") = bare.make .standard (getCall "/health/live") ∧
      ((c.make .standard (getCall "/health/live")).run .initial).map (·.1.1) =
        some (.error ⟨some "boom"⟩) ∧
      c.make .standard (getCall "/v1/orders") = eager.make .standard (getCall "/v1/orders") := by
  intro codes site
  have hc : (recoveringBuilder.build .standard codes crashing.connector site).1 = .ok _ :=
    ClientBuilder.build_eq_ok_iff.mpr ⟨by decide, .inr ⟨rfl, .inl rfl⟩, rfl⟩
  obtain ⟨bare, eager, hbare, heager, hcalls⟩ := make_skipping (Catalog.namesBuiltins_standard _) hc
  obtain ⟨hhealth, -⟩ := hcalls .standard (getCall "/health/live") (by rintro names ⟨⟩)
  obtain ⟨-, horders⟩ := hcalls .standard (getCall "/v1/orders") (by rintro names ⟨⟩)
  obtain ⟨hsame, hexchange⟩ := hhealth ⟨.targets ["/health"], .tail _ (.head _), by decide⟩
  have hpanics : ((bare.make .standard (getCall "/health/live")).run .initial).map (·.1.1) =
      some (.error ⟨some "boom"⟩) := by
    rw [hexchange]
    obtain ⟨-, -, rfl⟩ := ClientBuilder.build_eq_ok_iff.mp hbare
    simp only [throughWarned, through, Chain.run_nil]
    rfl
  exact ⟨_, bare, eager, hc, hbare, heager, hsame, hsame ▸ hpanics, horders (by decide)⟩

end Client

end CallChain
