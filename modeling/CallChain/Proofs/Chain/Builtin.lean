import CallChain.Chain.Catalog

/-!
# The stages of the library as a type

What holds of every chain of the library's own stages is proved by one case for each of them.
`Builtin` names the cases; `chainOf_standard` says that a list of names stands for the stages it names,
whatever else is in it.
-/

set_option autoImplicit false

namespace CallChain

/-- The stages of the library. -/
inductive Builtin where
  | accessLog
  | statusVerdict
  | statusCodeGate
  | certificateGuard
  | recovery
  | requestId
  | callSpan
  deriving DecidableEq, Repr

namespace Builtin

def all : List Builtin :=
  [accessLog, statusVerdict, statusCodeGate, certificateGuard, recovery, requestId, callSpan]

def name : Builtin → String
  | accessLog => AccessLog.name
  | statusVerdict => StatusVerdict.name
  | statusCodeGate => StatusCodeGate.name
  | certificateGuard => CertificateGuard.name
  | recovery => Recovery.name
  | requestId => RequestId.name
  | callSpan => CallSpan.name

/-- The stage for a client with the given skippers. -/
def stage : Builtin → List Skipper → Stage
  | accessLog => AccessLog.stage
  | statusVerdict => StatusVerdict.stage
  | statusCodeGate => StatusCodeGate.stage
  | certificateGuard => CertificateGuard.stage
  | recovery => Recovery.stage
  | requestId => RequestId.stage
  | callSpan => CallSpan.stage

/-- What the stage makes of the rest of the chain. -/
def intercept {ρ : Type} [Reply ρ] : Builtin → CallContext → Next ρ → Call ρ CallResult
  | accessLog => AccessLog.intercept
  | statusVerdict => StatusVerdict.intercept
  | statusCodeGate => StatusCodeGate.intercept
  | certificateGuard => CertificateGuard.intercept
  | recovery => Recovery.intercept
  | requestId => RequestId.intercept
  | callSpan => CallSpan.intercept

/-- The stage of a name, if the name is one of the library's. -/
def ofName? (n : String) : Option Builtin := all.find? fun b => b.name = n

theorem mem_all (b : Builtin) : b ∈ all := by
  cases b <;> decide

@[simp] theorem skips_stage (b : Builtin) (skippers : List Skipper) :
    (b.stage skippers).skips = Skipper.any skippers := by
  cases b <;> rfl

@[simp] theorem name_stage (b : Builtin) (skippers : List Skipper) :
    (b.stage skippers).name = b.name := by
  cases b <;> rfl

@[simp] theorem intercept_stage {ρ : Type} [Reply ρ] (b : Builtin) (skippers : List Skipper)
    (ctx : CallContext) (next : Next ρ) :
    (b.stage skippers).intercept ctx next = b.intercept ctx next := by
  cases b <;> rfl

/-- No two stages share a name. -/
theorem name_injective {b b' : Builtin} (h : b.name = b'.name) : b = b' := by
  cases b <;> cases b' <;> first | rfl | exact absurd h (by decide)

theorem ofName?_eq_some_iff {n : String} {b : Builtin} : ofName? n = some b ↔ b.name = n := by
  unfold ofName?
  constructor
  · intro h
    simpa using List.find?_some h
  · rintro rfl
    cases h : all.find? fun b' => decide (b'.name = b.name) with
    | none =>
      have := List.find?_eq_none.mp h b (mem_all b)
      simp at this
    | some b' =>
      have hname : b'.name = b.name := by simpa using List.find?_some h
      rw [name_injective hname]

end Builtin

namespace Catalog

/-- The standard catalog has a maker for the names of the library's stages and for no other. -/
theorem get?_standard (n : String) :
    standard.makers.get? n = (Builtin.ofName? n).map Builtin.stage := by
  cases h : Builtin.ofName? n with
  | some b =>
    obtain rfl := Builtin.ofName?_eq_some_iff.mp h
    cases b <;> rfl
  | none =>
    have hne (b : Builtin) : n ≠ b.name := fun hn => by
      rw [Builtin.ofName?_eq_some_iff.mpr hn.symm] at h
      cases h
    have h₁ := hne .accessLog
    have h₂ := hne .statusVerdict
    have h₃ := hne .statusCodeGate
    have h₄ := hne .certificateGuard
    have h₅ := hne .recovery
    have h₆ := hne .requestId
    have h₇ := hne .callSpan
    simp only [Builtin.name] at h₁ h₂ h₃ h₄ h₅ h₆ h₇
    simp only [standard, builtins, SortedMap.ofList, List.foldl, SortedMap.get?_insert,
      SortedMap.get?_empty, if_neg h₁, if_neg h₂, if_neg h₃, if_neg h₄, if_neg h₅, if_neg h₆,
      if_neg h₇, Option.map_none]

/-- The chain of a list of names is that of the stages it names, in the order of the list. -/
theorem chainOf_standard (names : List String) (skippers : List Skipper) :
    standard.chainOf names skippers =
      (names.filterMap Builtin.ofName?).map (Builtin.stage · skippers) := by
  simp only [chainOf, get?_standard, List.map_filterMap, Option.map_map]
  rfl

/-- The chain of the names of stages is that of the stages. -/
theorem chainOf_names (bs : List Builtin) (skippers : List Skipper) :
    standard.chainOf (bs.map Builtin.name) skippers = bs.map (Builtin.stage · skippers) := by
  have hname (b : Builtin) : Builtin.ofName? b.name = some b := Builtin.ofName?_eq_some_iff.mpr rfl
  simp only [chainOf_standard, List.filterMap_map, Function.comp_def, hname, List.filterMap_some]

end Catalog

end CallChain
