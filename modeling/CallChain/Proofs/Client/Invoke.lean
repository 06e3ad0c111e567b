import CallChain.Client.Basic
import CallChain.Proofs.Chain.Passage
import CallChain.Transport.Scripted

/-!
# A call of a client as a run of its chain

`Client.invoke` finds the chain of the call, warns about names without a stage, and runs the chain on a
fresh invocation.  `ends_invoke_iff` says so for a chain of stages of the library, and everything that
is proved of such chains is a statement about calls through it.
-/

set_option autoImplicit false

namespace CallChain.Client

variable {ρ : Type} [Reply ρ]

/-- The options a call of the client is made with. -/
def optionsOf (c : Client) (options : List CallOption) : List CallOption :=
  CallOption.combine c.options options

/-- The invocation a call of the client starts with. -/
def invocationOf (c : Client) (method target : String) (body : RequestBody) (reply : Option ρ)
    (options : List CallOption) : Invocation ρ :=
  ⟨method, target, body, .ofOption reply, c.optionsOf options, c.settings⟩

/-- The world with the warnings of finding the chain in its log. -/
def warned (c : Client) (catalog : Catalog) (options : List CallOption) (w : World) : World :=
  (c.chainFor catalog (c.optionsOf options)).2.foldl (fun w r => w.record (.logged r)) w

/-- What a call of the client enters its chain with. -/
def entranceOf (c : Client) (catalog : Catalog) (ctx : CallContext) (method target : String)
    (body : RequestBody) (reply : Option ρ) (options : List CallOption) (w : World) : Entrance ρ :=
  ⟨ctx, c.invocationOf method target body reply options, c.warned catalog options w⟩

/-- The chain of a call is made of the given stages of the library. -/
def HasChain (c : Client) (catalog : Catalog) (options : List CallOption) (bs : List Builtin) : Prop :=
  (c.chainFor catalog (c.optionsOf options)).1 = bs.map (Builtin.stage · c.skippers)

theorem ends_warn_bind_iff {R : Resumption} {α : Type} {records : List LogRecord} {k : Work α}
    {w w' : World} {a : α} :
    Work.Ends R (do
        for r in records do
          Work.record (.logged r)
        k) w a w' ↔
      Work.Ends R k (records.foldl (fun w r => w.record (.logged r)) w) a w' := by
  induction records generalizing w with
  | nil =>
    simp only [List.forIn_nil, pure_bind, List.foldl_nil]
  | cons r rest ih =>
    simp only [List.forIn_cons, bind_assoc, pure_bind, List.foldl_cons]
    rw [← ih]
    exact Work.ends_act_iff

/-- A call warns of the names without a stage and runs its chain. -/
theorem work_invoke {c : Client} {catalog : Catalog} {options : List CallOption} {bs : List Builtin}
    (hchain : c.HasChain catalog options bs) (ctx : CallContext) (method target : String)
    (body : RequestBody) (reply : Option ρ) :
    c.invoke catalog ctx method target body reply options = (do
      for r in (c.chainFor catalog (c.optionsOf options)).2 do
        Work.record (.logged r)
      ((Chain.run (bs.map (Builtin.stage · c.skippers)) Exchange.run ctx).run.run
        (c.invocationOf method target body reply options)).bind fun r =>
          .done (r.1, r.2.reply.value?)) := by
  rw [← hchain]
  rfl

/-- A call ends as its chain does, with the reply as the chain left it. -/
theorem ends_invoke_iff {R : Resumption} {c : Client} {catalog : Catalog} {ctx : CallContext}
    {method target : String} {body : RequestBody} {reply : Option ρ} {options : List CallOption}
    {bs : List Builtin} (hchain : c.HasChain catalog options bs) {w v : World}
    {o : Except Panic CallResult} {reply' : Option ρ} :
    (∃ w', Work.Ends R (c.invoke catalog ctx method target body reply options) w (o, reply') w' ∧
        w'.quiet = v) ↔
      ∃ i', Chain.EndsFrom R c.skippers bs
          (c.entranceOf catalog ctx method target body reply options w) ⟨o, i', v⟩ ∧
        reply' = i'.reply.value? := by
  simp only [work_invoke hchain, ends_warn_bind_iff, Work.ends_bind_iff, Work.ends_done_iff,
    Prod.mk.injEq]
  constructor
  · rintro ⟨w', ⟨⟨o, i'⟩, w₁, h, ⟨rfl, rfl⟩, rfl⟩, rfl⟩
    exact ⟨i', ⟨w', rfl, h⟩, rfl⟩
  · rintro ⟨i', ⟨w', hw, h⟩, rfl⟩
    exact ⟨w', ⟨(o, i'), w', h, ⟨rfl, rfl⟩, rfl⟩, hw⟩

/-- A client of a scripted remote side, without TLS, options and skippers, with a chain of stages of
the library. -/
def scripted (remote : ScriptedRemote) (bs : List Builtin) : Client :=
  { settings :=
      { address := "http://service.test", tls := .plain,
        codes := .new ⟨"localhost", 1, "service", .oneFile "library"⟩,
        connector := remote.connector, timeout := none, mode := .plain }
    options := []
    stageNames := bs.map Builtin.name
    skippers := []
    chain := Catalog.standard.chainOf (bs.map Builtin.name) [] }

theorem hasChain_scripted (remote : ScriptedRemote) (bs : List Builtin) {options : List CallOption}
    (h : (CallInfo.ofOptions options).stages = none) :
    (scripted remote bs).HasChain .standard options bs := by
  rw [HasChain, chainFor, show (scripted remote bs).optionsOf options = options from rfl, h]
  exact Catalog.chainOf_names bs []

end CallChain.Client
