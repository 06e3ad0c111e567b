import CallChain.Proofs.Chain.Fitted
import CallChain.Proofs.Client.Invoke

/-!
# Calls through stages with skippers of their own

The names of a call may resolve to stages of the library that were made with different skippers
(`Client.Resolves`).  `Client.invokeThrough` is a call through any given chain around any given center; a
call of the client is one through what its names resolve to, around the exchange.
-/

set_option autoImplicit false

namespace CallChain.Client

open Call (Ends)

variable {ρ : Type} [Reply ρ]

/-- The names of a call resolve to the given stages of the library. -/
def Resolves (c : Client) (catalog : Catalog) (options : List CallOption) (fs : List Fitted) : Prop :=
  (c.chainFor catalog (c.optionsOf options)).1 = fs.map Fitted.stage

/-- A call of the client, through a given chain around a given center. -/
def invokeThrough (c : Client) (catalog : Catalog) (ctx : CallContext) (method target : String)
    (body : RequestBody) (reply : Option ρ) (options : List CallOption) (chain : Chain)
    (center : CallContext → Call ρ CallResult) : Work (Except Panic CallResult × Option ρ) := do
  for r in (c.chainFor catalog (c.optionsOf options)).2 do
    Work.record (.logged r)
  ((chain.run center ctx).run.run (c.invocationOf method target body reply options)).bind fun r =>
    .done (r.1, r.2.reply.value?)

variable {c : Client} {catalog : Catalog} {ctx : CallContext} {method target : String}
  {body : RequestBody} {reply : Option ρ} {options : List CallOption}

theorem invoke_eq_through {fs : List Fitted} (h : c.Resolves catalog options fs) :
    c.invoke catalog ctx method target body reply options =
      c.invokeThrough catalog ctx method target body reply options (fs.map Fitted.stage)
        Exchange.run := by
  rw [← h]
  rfl

theorem ends_invokeThrough_iff {R : Resumption} {chain : Chain}
    {center : CallContext → Call ρ CallResult} {w v : World} {o : Except Panic CallResult}
    {reply' : Option ρ} :
    (∃ w', Work.Ends R (c.invokeThrough catalog ctx method target body reply options chain center) w
        (o, reply') w' ∧ w'.quiet = v) ↔
      ∃ i', Ends R (chain.run center ctx) (c.invocationOf method target body reply options)
          (c.warned catalog options w) ⟨o, i', v⟩ ∧
        reply' = i'.reply.value? := by
  simp only [invokeThrough, ends_warn_bind_iff, Work.ends_bind_iff, Work.ends_done_iff,
    Prod.mk.injEq]
  constructor
  · rintro ⟨w', ⟨⟨o, i'⟩, w₁, h, ⟨rfl, rfl⟩, rfl⟩, rfl⟩
    exact ⟨i', ⟨w', rfl, h⟩, rfl⟩
  · rintro ⟨i', ⟨w', hw, h⟩, rfl⟩
    exact ⟨w', ⟨(o, i'), w', h, ⟨rfl, rfl⟩, rfl⟩, hw⟩

theorem ends_invoke_acting_iff {R : Resumption} {fs : List Fitted}
    (h : c.Resolves catalog options fs) {w v : World} {o : Except Panic CallResult}
    {reply' : Option ρ} :
    (∃ w', Work.Ends R (c.invoke catalog ctx method target body reply options) w (o, reply') w' ∧
        w'.quiet = v) ↔
      ∃ i', Chain.EndsFrom R [] (Fitted.acting fs method target)
          (c.entranceOf catalog ctx method target body reply options w) ⟨o, i', v⟩ ∧
        reply' = i'.reply.value? := by
  rw [invoke_eq_through h, ends_invokeThrough_iff]
  exact exists_congr fun i' => and_congr_left fun _ => Chain.ends_fitted_iff_endsFrom
    (x := c.entranceOf catalog ctx method target body reply options w) fs ⟨rfl, rfl⟩

/-- The stages of a client that were all made with its skippers. -/
theorem HasChain.resolves {bs : List Builtin} (h : c.HasChain catalog options bs) :
    c.Resolves catalog options (bs.map fun b => ⟨b, c.skippers⟩) := by
  rw [Resolves, h, List.map_map]
  rfl

end CallChain.Client
