import CallChain.Proofs.Chain.Passage
import CallChain.Proofs.Exchange.Alike

/-!
# What a call enters the center of a chain with

On the way in, stages set the header of the request id, put decoding off, forget an old panic and draw
an id.  All of these can be done in any order and again without a difference: a second request id is the
first one once more, because the context keeps it.  So what reaches the center depends on which stages
are in the chain, and on nothing else about the chain.
-/

set_option autoImplicit false

namespace CallChain

variable {ρ : Type}

/-- The id that a call entering a part of the chain has or would draw. -/
def Entrance.requestId (x : Entrance ρ) : String := RequestId.idOf x.context x.world

/-- How many ids will have been drawn once the call has its own. -/
def Entrance.idsDrawn (x : Entrance ρ) : Nat := (RequestId.drawnFor x.context x.world).idsDrawn

/-- Two entrances of the same call, which differ in the names of its stages and in the log. -/
structure Entrance.Kin (x x' : Entrance ρ) : Prop where
  context : x.context = x'.context
  invocation : x.invocation.Kin x'.invocation
  world : x.world.quiet = x'.world.quiet

theorem RequestId.idsDrawn_drawnFor (ctx : CallContext) (w : World) :
    (drawnFor ctx w).idsDrawn = if ctx.requestId.isSome then w.idsDrawn else w.idsDrawn + 1 := by
  unfold drawnFor
  split <;> rfl

namespace Builtin

theorem enter_callSpan_idsDrawn (x : Entrance ρ) :
    (callSpan.enter x).world.idsDrawn = x.world.idsDrawn :=
  (congrArg World.idsDrawn (CallSpan.quiet_logged _ _ _) :)

theorem enter_callSpan_nextId (x : Entrance ρ) : (callSpan.enter x).world.nextId = x.world.nextId :=
  (congrArg World.nextId (CallSpan.quiet_logged _ _ _) :)

/-- What becomes of an entrance on the way through the given stages, in any order and any number. -/
structure Entered (bs : List Builtin) (x y : Entrance ρ) : Prop where
  token : y.context.token = x.context.token
  deadline : y.context.deadline = x.context.deadline
  requestId : y.requestId = x.requestId
  idsDrawn : y.idsDrawn = x.idsDrawn
  invocation : y.invocation = { x.invocation with options := y.invocation.options }
  info : y.invocation.info =
    { x.invocation.info with
      headers := if Builtin.requestId ∈ bs then
          x.invocation.info.headers.set RequestId.header [x.requestId]
        else x.invocation.info.headers
      responseNotParse := x.invocation.info.responseNotParse || decide (statusCodeGate ∈ bs) }
  world : y.world.quiet =
    { x.world.quiet with
      panicSite := if recovery ∈ bs then none else x.world.panicSite
      idsDrawn := if Builtin.requestId ∈ bs then x.idsDrawn else x.world.idsDrawn }

namespace Entered

variable {as bs : List Builtin} {x y z : Entrance ρ}

theorem nil : Entered [] x x where
  token := rfl
  deadline := rfl
  requestId := rfl
  idsDrawn := rfl
  invocation := rfl
  info := by
    simp
  world := by
    simp only [List.not_mem_nil, if_false]
    rfl

/-- What a single stage does on the way in. -/
theorem enter (b : Builtin) (x : Entrance ρ) : Entered [b] x (b.enter x) where
  token := by
    cases b <;> rfl
  deadline := by
    cases b <;> rfl
  requestId := by
    cases b with
    | callSpan =>
      show RequestId.idOf _ _ = RequestId.idOf _ _
      unfold RequestId.idOf
      rw [enter_callSpan_nextId]
      rfl
    | accessLog | statusVerdict | statusCodeGate | certificateGuard | recovery | requestId => rfl
  idsDrawn := by
    cases b with
    | callSpan =>
      show (RequestId.drawnFor _ _).idsDrawn = (RequestId.drawnFor _ _).idsDrawn
      rw [RequestId.idsDrawn_drawnFor, RequestId.idsDrawn_drawnFor, enter_callSpan_idsDrawn]
      rfl
    | recovery =>
      show (RequestId.drawnFor _ _).idsDrawn = (RequestId.drawnFor _ _).idsDrawn
      rw [RequestId.idsDrawn_drawnFor, RequestId.idsDrawn_drawnFor]
      rfl
    | accessLog | statusVerdict | statusCodeGate | certificateGuard | requestId => rfl
  invocation := invocation_enter b x
  info := by
    cases b with
    | statusCodeGate =>
      show (x.invocation.push .responseNotParse).info = _
      rw [Invocation.info_push]
      simp [CallInfo.apply]
    | requestId =>
      show (x.invocation.push (.setHeader RequestId.header [x.requestId])).info = _
      rw [Invocation.info_push]
      simp [CallInfo.apply]
    | accessLog | statusVerdict | certificateGuard | recovery | callSpan => simp [Builtin.enter]
  world := by
    cases b with
    | requestId =>
      show (RequestId.drawnFor x.context x.world).quiet = _
      simp only [List.mem_singleton, reduceCtorEq, if_true, if_false, Entrance.idsDrawn]
      unfold RequestId.drawnFor
      split <;> rfl
    | callSpan =>
      show (CallSpan.logged _ _ _).quiet = _
      rw [CallSpan.quiet_logged]
      simp only [List.mem_singleton, reduceCtorEq, if_false]
      rfl
    | accessLog | statusVerdict | statusCodeGate | certificateGuard | recovery =>
      simp only [List.mem_singleton, reduceCtorEq, if_true, if_false]
      rfl

/-- One way in after another is the way in through the stages of both. -/
theorem trans (h : Entered as x y) (h' : Entered bs y z) : Entered (as ++ bs) x z where
  token := h'.token.trans h.token
  deadline := h'.deadline.trans h.deadline
  requestId := h'.requestId.trans h.requestId
  idsDrawn := h'.idsDrawn.trans h.idsDrawn
  invocation := by
    rw [h'.invocation, h.invocation]
  info := by
    rw [h'.info, h.info, h.requestId]
    by_cases ha : Builtin.requestId ∈ as <;> by_cases hb : Builtin.requestId ∈ bs <;>
      simp [ha, hb, Bool.or_assoc]
  world := by
    have hsite : y.world.panicSite = if recovery ∈ as then none else x.world.panicSite :=
      (congrArg World.panicSite h.world :)
    have hdrawn : y.world.idsDrawn =
        if Builtin.requestId ∈ as then x.idsDrawn else x.world.idsDrawn :=
      (congrArg World.idsDrawn h.world :)
    rw [h'.world, h.world, hsite, hdrawn, h.idsDrawn]
    by_cases ha : Builtin.requestId ∈ as <;> by_cases hb : Builtin.requestId ∈ bs <;>
      by_cases hc : recovery ∈ as <;> by_cases hd : recovery ∈ bs <;>
        simp [ha, hb, hc, hd]

theorem enterAll (bs : List Builtin) (x : Entrance ρ) : Entered bs x (enterAll bs x) := by
  induction bs generalizing x with
  | nil => exact nil
  | cons b bs ih => exact (enter b x).trans (ih (b.enter x))

/-- Ways in through the same stages lead two kindred calls to the same center. -/
theorem kin {x' y' : Entrance ρ} {bs' : List Builtin} (h : Entered bs x y)
    (h' : Entered bs' x' y') (hkin : x.Kin x') (hmem : ∀ b, b ∈ bs ↔ b ∈ bs') :
    y.context.Kin y'.context ∧ y.invocation.Kin y'.invocation ∧ y.world.quiet = y'.world.quiet := by
  obtain ⟨hcontext, ⟨⟨options, hrest⟩, stages, hinfo⟩, hworld⟩ := hkin
  have hid : x'.requestId = x.requestId := by
    unfold Entrance.requestId RequestId.idOf
    rw [hcontext, show x.world.nextId = x'.world.nextId from (congrArg World.nextId hworld :)]
  have hdrawn : x'.idsDrawn = x.idsDrawn := by
    unfold Entrance.idsDrawn
    rw [RequestId.idsDrawn_drawnFor, RequestId.idsDrawn_drawnFor, hcontext,
      show x.world.idsDrawn = x'.world.idsDrawn from (congrArg World.idsDrawn hworld :)]
  refine ⟨⟨?_, ?_⟩, ⟨⟨y'.invocation.options, ?_⟩, stages, ?_⟩, ?_⟩
  · rw [h.token, h'.token, hcontext]
  · rw [h.deadline, h'.deadline, hcontext]
  · rw [h'.invocation, hrest, h.invocation]
  · rw [h'.info, h.info, hinfo, hid]
    simp only [hmem]
  · rw [h'.world, h.world, hworld, hdrawn,
      show x.world.panicSite = x'.world.panicSite from (congrArg World.panicSite hworld :),
      show x.world.idsDrawn = x'.world.idsDrawn from (congrArg World.idsDrawn hworld :)]
    simp only [hmem]

end Entered

end Builtin

end CallChain
