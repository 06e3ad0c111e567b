import CallChain.Proofs.Chain.Panic
import CallChain.Proofs.Client.Recasing
import CallChain.Proofs.Exchange.Draws

/-!
# The request id on its way through a chain

The outermost stage that sets the request id decides it: everything inside finds it in its context, and
the stages of the same kind further in set it once more.  As they set it behind all options of the call, it
is the only value of its header in the request (`Chain.Trip.getAll_request`), whatever the options said about
that header.  Only the way in draws an id (`Chain.Trip.ids_eq`).
-/

set_option autoImplicit false

namespace CallChain

variable {ρ : Type}

/-! ### The header -/

/-- The option puts maps of headers into a call only with their keys as they are filed. -/
def CallOption.Filed : CallOption → Prop
  | .setHeaders h => h.Filed
  | .addHeaders h => h.Filed
  | _ => True

theorem CallInfo.filed_apply {i : CallInfo} {o : CallOption} (h : i.headers.Filed) (ho : o.Filed) :
    (i.apply o).headers.Filed := by
  cases o with
  | setHeaders h' => exact ho
  | addHeaders h' => exact h.extend ho
  | setHeader key values => exact h.set key values
  | addHeader key values => exact h.append key values
  | setQueryValue key value | addQueryValue key value =>
    unfold apply
    dsimp only
    split
    · exact h
    · exact h
  | timeout | setQuery | mergeQuery | addQuery | url | endpoint | responseNotParse | processRequest
    | stages | data => exact h

theorem CallInfo.filed_ofOptions {options : List CallOption} (h : ∀ o ∈ options, o.Filed) :
    (ofOptions options).headers.Filed := by
  have hfold (i : CallInfo) (hi : i.headers.Filed) : (options.foldl apply i).headers.Filed := by
    induction options generalizing i with
    | nil => exact hi
    | cons o rest ih =>
      obtain ⟨ho, hrest⟩ := List.forall_mem_cons.mp h
      exact ih hrest (i.apply o) (filed_apply hi ho)
  exact hfold empty ValueMap.filed_empty

namespace Exchange

theorem getAll_headersFor_of_ne {key : String}
    (h : Text.sameIgnoringCase key "content-type" = false) (headers : Headers) (body : Option Bytes) :
    (headersFor headers body).getAll key = headers.getAll key := by
  unfold headersFor
  split
  · show (headers.set "content-type" ["application/json"]).getAll key = _
    rw [ValueMap.getAll_set, if_neg]
    intro hfile
    rw [KeyCase.file_folded_iff.mp hfile.symm] at h
    cases h
  · rfl

theorem filed_headersFor {headers : Headers} (h : headers.Filed) (body : Option Bytes) :
    (headersFor headers body).Filed := by
  unfold headersFor
  split
  · exact h.set "content-type" ["application/json"]
  · exact h

variable {R : Resumption} {ctx : CallContext} {i : Invocation ρ} {w w₁ : World} {p : Prepared}

theorem Readied.request_eq (h : Readied ctx i w p w₁) (hprocess : i.info.process = none) :
    p.request = draftOf i p.url p.limit := by
  cases h with
  | intro _ _ hprocessor =>
    rw [processor, hprocess] at hprocessor
    cases hprocessor
    rfl

theorem Course.readied {t : Transfer} {d : Departure ρ CallResult}
    (h : Course R ctx i w (some t) d) : ∃ w₁, Readied ctx i w t.prepared w₁ := by
  cases h with
  | sent hready => exact ⟨_, hready⟩

end Exchange

/-! ### On the way in and out -/

namespace Builtin

/-- An id that a call has is kept. -/
theorem requestId_enter_of_some {x : Entrance ρ} {id : String} (h : x.context.requestId = some id)
    (b : Builtin) : (b.enter x).context.requestId = some id := by
  cases b with
  | requestId =>
    show some (RequestId.idOf x.context x.world) = some id
    rw [RequestId.idOf, h]
    rfl
  | accessLog | statusVerdict | statusCodeGate | certificateGuard | recovery | callSpan => exact h

theorem requestId_enterAll_of_some {x : Entrance ρ} {id : String}
    (h : x.context.requestId = some id) (bs : List Builtin) :
    (enterAll bs x).context.requestId = some id := by
  induction bs generalizing x with
  | nil => exact h
  | cons b bs ih => exact ih (requestId_enter_of_some h b)

/-- Inside a stage that sets it, the id is in the context. -/
theorem requestId_enterAll {bs : List Builtin} (h : requestId ∈ bs) (x : Entrance ρ) :
    (enterAll bs x).context.requestId = some x.requestId := by
  induction bs generalizing x with
  | nil => cases h
  | cons b bs ih =>
    rw [enterAll_cons]
    rcases List.mem_cons.mp h with rfl | hmem
    -- The outermost such stage puts the id into the context, and the others keep it.
    · exact requestId_enterAll_of_some rfl bs
    · rw [ih hmem, (Entered.enter b x).requestId]

/-- One id is drawn on the way in, if one is to be set and there is none. -/
theorem ids_enterAll (bs : List Builtin) (x : Entrance ρ) :
    (enterAll bs x).world.ids =
      x.world.ids ++ if requestId ∈ bs ∧ x.context.requestId = none then [x.requestId] else [] := by
  have hsource : (enterAll bs x).world.idSource = x.world.idSource :=
    (congrArg World.idSource (Entered.enterAll bs x).world :)
  have hworld : (enterAll bs x).world.idsDrawn =
      if requestId ∈ bs then x.idsDrawn else x.world.idsDrawn :=
    (congrArg World.idsDrawn (Entered.enterAll bs x).world :)
  rw [Entrance.idsDrawn, RequestId.idsDrawn_drawnFor] at hworld
  split
  next h =>
    rw [if_pos h.1, h.2] at hworld
    rw [World.ids_succ hsource hworld, Entrance.requestId, RequestId.idOf, h.2]
    rfl
  next h =>
    rw [List.append_nil]
    refine World.ids_congr hsource (hworld.trans ?_)
    by_cases hmem : requestId ∈ bs
    · obtain ⟨id, hid⟩ := Option.ne_none_iff_exists'.mp fun hnone => h ⟨hmem, hnone⟩
      rw [if_pos hmem, hid]
      rfl
    · rw [if_neg hmem]

variable [Reply ρ]

theorem ids_leaveAll (bs : List Builtin) (codes : CodeRegistry) (d : Departure ρ CallResult) :
    (leaveAll bs codes d).world.ids = d.world.ids := by
  induction bs with
  | nil => rfl
  | cons b bs ih =>
    have hleave : (b.leave codes (leaveAll bs codes d)).world.ids = (leaveAll bs codes d).world.ids := by
      rw [world_leave]
      exact World.ids_congr rfl rfl
    exact hleave.trans ih

end Builtin

/-! ### In the request -/

namespace Chain

variable [Reply ρ] {R : Resumption} {skippers : List Skipper} {bs : List Builtin} {x : Entrance ρ}
  {d : Departure ρ CallResult}

/-- The request of a trip is drawn up with the headers of the call. -/
theorem Trip.headers_request {t : Exchange.Transfer} (h : Trip R skippers bs x (some t) d)
    (hprocess : x.invocation.info.process = none) :
    t.prepared.request.headers =
      Exchange.headersFor (Builtin.enterAll (passed skippers bs x.invocation) x).invocation.info.headers
        x.invocation.body.bytes? := by
  cases h with
  | fetched _ hy hcourse =>
    subst hy
    obtain ⟨w₁, hready⟩ := hcourse.readied
    have hentered := Builtin.Entered.enterAll (passed skippers bs x.invocation) x
    have hdraft := hready.request_eq (by rw [hentered.info]; exact hprocess)
    rw [hdraft, Exchange.draftOf, hentered.invocation]

/-- Past a stage that sets it, the id of the call is all that stands in its header. -/
theorem Trip.getAll_request {t : Exchange.Transfer} (h : Trip R skippers bs x (some t) d)
    (hprocess : x.invocation.info.process = none)
    (hskip : Skipper.any skippers x.invocation.method x.invocation.target = false)
    (hmem : .requestId ∈ bs) {key : String}
    (hkey : Text.sameIgnoringCase key RequestId.header = true) :
    t.prepared.request.headers.getAll key = [x.requestId] := by
  have hpassed : passed skippers bs x.invocation = bs := by
    cases h with
    | fetched hpasses => exact passed_of_not_refused hskip hpasses
  have hfile := KeyCase.file_folded_iff.mpr hkey
  have hcontent : Text.sameIgnoringCase key "content-type" = false := by
    rw [Text.sameIgnoringCase, beq_eq_false_iff_ne]
    intro hcontent
    exact absurd (hfile.symm.trans hcontent) (by decide)
  rw [h.headers_request hprocess, Exchange.getAll_headersFor_of_ne hcontent, hpassed,
    (Builtin.Entered.enterAll bs x).info]
  dsimp only
  rw [if_pos hmem, ValueMap.getAll_set, if_pos hfile.symm]

theorem Trip.filed_request {t : Exchange.Transfer} (h : Trip R skippers bs x (some t) d)
    (hprocess : x.invocation.info.process = none) (hfiled : x.invocation.info.headers.Filed) :
    t.prepared.request.headers.Filed := by
  rw [h.headers_request hprocess]
  refine Exchange.filed_headersFor ?_ _
  rw [(Builtin.Entered.enterAll _ x).info]
  dsimp only
  split
  · exact hfiled.set _ _
  · exact hfiled

/-- A trip draws the id that is drawn on the way in, and no other. -/
theorem Trip.ids_eq {t : Option Exchange.Transfer} (h : Trip R skippers bs x t d)
    (hconnector : x.invocation.client.connector.DrawsNone)
    (hkeeps : x.invocation.info.Keeps fun v v' => v'.ids = v.ids)
    (hR : ∀ g v v₁, R g v v₁ → v₁.ids = v.ids) :
    d.world.ids = x.world.ids ++
      if .requestId ∈ passed skippers bs x.invocation ∧ x.context.requestId = none then [x.requestId]
      else [] := by
  rw [← Builtin.ids_enterAll]
  cases h with
  | refused _ hy =>
    subst hy
    rw [Builtin.ids_leaveAll]
    rfl
  | fetched _ hy hcourse =>
    subst hy
    rw [Builtin.ids_leaveAll, Exchange.world_conclusion]
    refine hcourse.ids_eq ?_ hR (Builtin.keeps_enterAll hkeeps _)
    rw [Builtin.invocation_enterAll]
    exact hconnector

end Chain

end CallChain
