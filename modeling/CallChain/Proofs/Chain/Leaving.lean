import CallChain.Proofs.Chain.Passage

/-!
# What a chain makes of what comes back

On the way out a panic becomes a failure as soon as a recovery is passed, a failure gains frames and
nothing else, and a response meets the objections of the stages.  A gate decodes the response on the
way, but every verdict behind a gate reads the body and no reply, and to decode a second time changes
nothing.  So each stage has the same objection to a response wherever it stands, the response passes if
no stage of the chain has one, and otherwise the failure is the objection of one of them.
-/

set_option autoImplicit false

namespace CallChain

/-- Two failures that differ in their histories at most. -/
structure CallFailure.Alike (f g : CallFailure) : Prop where
  coder : f.fault.coder = g.fault.coder
  description : f.fault.description = g.fault.description
  response : f.response = g.response

namespace CallFailure.Alike

variable {f g h : CallFailure}

theorem refl (f : CallFailure) : f.Alike f := ⟨rfl, rfl, rfl⟩

theorem symm (hfg : f.Alike g) : g.Alike f :=
  ⟨hfg.coder.symm, hfg.description.symm, hfg.response.symm⟩

theorem trans (hfg : f.Alike g) (hgh : g.Alike h) : f.Alike h :=
  ⟨hfg.coder.trans hgh.coder, hfg.description.trans hgh.description,
    hfg.response.trans hgh.response⟩

/-- A mark is one more frame at most. -/
theorem mark (hfg : f.Alike g) (b : Builtin) (codes : CodeRegistry) : (b.mark codes f).Alike g := by
  unfold Builtin.mark
  split
  · exact ⟨hfg.coder, hfg.description, hfg.response⟩
  · exact hfg

end CallFailure.Alike

/-- Replies for which it changes nothing to decode the same body again. -/
def Reply.Steady (ρ : Type) [Reply ρ] : Prop :=
  ∀ (reply reply' : ρ) (body : Bytes), Reply.decode? reply body = some reply' →
    Reply.decode? reply' body = some reply'

/-- What the body alone decides is steady. -/
theorem Reply.steady_of_body {ρ : Type} [Reply ρ]
    (h : ∀ (reply reply' : ρ) (body : Bytes), Reply.decode? reply body = Reply.decode? reply' body) :
    Reply.Steady ρ := by
  intro reply reply' body hdecode
  rw [h reply' reply body]
  exact hdecode

variable {ρ : Type}

/-- The departure is that of a failure, up to the history of the failure. -/
structure Departure.FailsWith (codes : CodeRegistry) (g : CallFailure)
    (d : Departure ρ CallResult) : Prop where
  codes : d.invocation.codes = codes
  failure : ∃ f, d.outcome = .ok (.error f) ∧ f.Alike g

variable [Reply ρ]

namespace Exchange

variable {place : Place} {i j : Invocation ρ} {response : RawResponse}

theorem eq_of_decoded (h : decoded place i response = .ok j) : j = { i with reply := j.reply } := by
  unfold decoded at h
  split at h
  · cases h
    rfl
  · split at h
    · cases h
      rfl
    · cases h

/-- A decoded response decodes again, and nothing changes. -/
theorem decoded_again (hsteady : Reply.Steady ρ) (h : decoded place i response = .ok j) :
    decoded place j response = .ok j := by
  unfold decoded at h
  split at h
  next hseen =>
    cases h
    simp [decoded, hseen]
  next reply hseen =>
    split at h
    next reply' hdecode =>
      cases h
      have hagain := hsteady reply reply' response.body hdecode
      simp [decoded, ReplySlot.seen?, hagain]
    · cases h

end Exchange

/-- Where decoding was put off, the verdict is read off the body. -/
theorem StatusVerdict.fieldOf_of_notParse {i : Invocation ρ} {response : RawResponse}
    (h : i.info.responseNotParse = true) : fieldOf i response = fieldOfBody response.body := by
  unfold fieldOf
  rw [h]
  split
  next heq => cases heq
  · rfl

namespace Builtin

variable {b : Builtin} {bs : List Builtin} {codes : CodeRegistry} {i : Invocation ρ} {v : World}
  {response : RawResponse} {f g : CallFailure} {d : Departure ρ CallResult}

/-- What leaves a list of stages, outermost first. -/
def leaveAll (bs : List Builtin) (codes : CodeRegistry) (d : Departure ρ CallResult) :
    Departure ρ CallResult :=
  bs.foldr (fun b d => b.leave codes d) d

/-- What a stage has against a response. -/
def objection? (b : Builtin) (i : Invocation ρ) (response : RawResponse) : Option CallFailure :=
  match b with
  | statusVerdict =>
    match StatusVerdict.verdict i.codes (StatusVerdict.fieldOf i response) response with
    | .ok _ => none
    | .error f => some f
  | statusCodeGate =>
    if response.isSuccess then
      match Exchange.decoded .gateDecodes i response with
      | .ok _ => none
      | .error f => some f
    else some (StatusCodeGate.refusal i.codes response)
  | _ => none

/-- The invocation once a response has passed the given stages. -/
def settled (bs : List Builtin) (i : Invocation ρ) (response : RawResponse) : Invocation ρ :=
  if statusCodeGate ∈ bs then
    match Exchange.decoded .gateDecodes i response with
    | .ok j => j
    | .error _ => i
  else i

theorem requests_leaveAll (bs : List Builtin) (codes : CodeRegistry) (d : Departure ρ CallResult) :
    (leaveAll bs codes d).world.requests = d.world.requests := by
  induction bs with
  | nil => rfl
  | cons b bs ih => exact (requests_leave b codes _).trans ih

theorem failsWith_leave (h : d.FailsWith codes g) : (b.leave codes d).FailsWith codes g := by
  obtain ⟨hcodes, f, hf, halike⟩ := h
  rw [leave_failure hcodes hf]
  exact ⟨hcodes, _, rfl, halike.mark b codes⟩

/-- A failure leaves as itself. -/
theorem failsWith_leaveAll (h : d.FailsWith codes g) : (leaveAll bs codes d).FailsWith codes g := by
  induction bs with
  | nil => exact h
  | cons b bs ih => exact failsWith_leave ih

/-- Only a recovery stops a panic. -/
theorem leave_panic {p : Panic} (h : b ≠ recovery) :
    b.leave codes ⟨.error p, i, v⟩ = ⟨.error p, i, v⟩ := by
  cases b with
  | recovery => exact absurd rfl h
  | accessLog | statusVerdict | statusCodeGate | certificateGuard | requestId | callSpan => rfl

theorem leaveAll_panic {p : Panic} (h : recovery ∉ bs) :
    leaveAll bs codes ⟨.error p, i, v⟩ = ⟨.error p, i, v⟩ := by
  induction bs with
  | nil => rfl
  | cons b bs ih =>
    have hb : b ≠ recovery := fun hb => h (by rw [hb]; exact List.mem_cons_self)
    have hrest := ih fun hmem => h (List.mem_cons_of_mem b hmem)
    show b.leave codes (leaveAll bs codes _) = _
    rw [hrest, leave_panic hb]

/-- Where a panic happened is told in the history only. -/
theorem alike_faultOf (codes : CodeRegistry) (site : Option CallSite) (p : Panic) :
    (CallFailure.new (Recovery.faultOf codes site p)).Alike
      (.new (Recovery.faultOf codes none p)) := by
  unfold Recovery.faultOf Fault.pushFrame Fault.wrap CallFailure.new
  constructor
  · dsimp only
  · dsimp only
  · dsimp only

/-- A panic leaves the innermost recovery as a failure, wherever it happened. -/
theorem failsWith_leaveAll_panic {p : Panic} (hcodes : i.codes = codes) (h : recovery ∈ bs) :
    (leaveAll bs codes ⟨.error p, i, v⟩).FailsWith codes (.new (Recovery.faultOf codes none p)) := by
  induction bs with
  | nil => cases h
  | cons b bs ih =>
    by_cases hmem : recovery ∈ bs
    · exact failsWith_leave (ih hmem)
    · obtain rfl : recovery = b := (List.mem_cons.mp h).resolve_right hmem
      show (Recovery.leave (leaveAll bs codes _)).FailsWith codes _
      rw [leaveAll_panic hmem]
      exact ⟨hcodes, _, rfl, hcodes ▸ alike_faultOf i.codes v.panicSite p⟩

theorem leave_response_of_objection (h : b.objection? i response = some f) :
    b.leave codes ⟨.ok (.ok response), i, v⟩ = ⟨.ok (.error f), i, v⟩ := by
  cases b with
  | statusVerdict =>
    show (⟨.ok _, i, v⟩ : Departure ρ CallResult) = _
    unfold objection? at h
    dsimp only at h
    split at h
    · cases h
    next hverdict =>
      cases h
      rw [hverdict]
  | statusCodeGate =>
    show StatusCodeGate.leave (.ok response) i v = _
    unfold objection? at h
    unfold StatusCodeGate.leave Exchange.handOut
    dsimp only at h ⊢
    by_cases hsuccess : response.isSuccess
    · rw [if_pos hsuccess] at h ⊢
      cases hdecoded : Exchange.decoded .gateDecodes i response with
      | ok j =>
        rw [hdecoded] at h
        cases h
      | error f' =>
        rw [hdecoded] at h
        cases h
        rfl
    · rw [if_neg hsuccess] at h ⊢
      cases h
      rfl
  | accessLog | certificateGuard | recovery | requestId | callSpan => cases h

theorem leave_response_of_none (h : b.objection? i response = none) :
    b.leave codes ⟨.ok (.ok response), i, v⟩ = ⟨.ok (.ok response), settled [b] i response, v⟩ := by
  cases b with
  | statusVerdict =>
    show (⟨.ok _, i, v⟩ : Departure ρ CallResult) = ⟨_, i, v⟩
    unfold objection? at h
    dsimp only at h
    split at h
    next r hverdict =>
      have hcarried := StatusVerdict.carried?_verdict i.codes (StatusVerdict.fieldOf i response)
        response
      rw [hverdict] at hcarried ⊢
      rw [Option.some.inj hcarried]
    · cases h
  | statusCodeGate =>
    show StatusCodeGate.leave (.ok response) i v = _
    unfold objection? at h
    unfold StatusCodeGate.leave Exchange.handOut settled
    dsimp only at h ⊢
    by_cases hsuccess : response.isSuccess
    · rw [if_pos hsuccess] at h ⊢
      rw [if_pos List.mem_cons_self]
      cases hdecoded : Exchange.decoded .gateDecodes i response with
      | ok j => rfl
      | error f =>
        rw [hdecoded] at h
        cases h
    · rw [if_neg hsuccess] at h
      cases h
  | accessLog | certificateGuard | recovery | requestId | callSpan => rfl

/-- Whatever a stage has against a response, it hands the response along. -/
theorem response_of_objection (h : b.objection? i response = some f) :
    f.response = some response := by
  have hcarried := carried?_leave b i.codes ⟨.ok (.ok response), i, .initial⟩
  rw [leave_response_of_objection h] at hcarried
  exact hcarried

/-- What passes the gate is of success and decodes. -/
theorem decoded_of_gate (h : statusCodeGate.objection? i response = none) :
    response.isSuccess = true ∧ ∃ j, Exchange.decoded .gateDecodes i response = .ok j := by
  unfold objection? at h
  dsimp only at h
  split at h
  next hsuccess =>
    split at h
    next j hdecoded => exact ⟨hsuccess, j, hdecoded⟩
    · cases h
  · cases h

/-- A stage has the same against a response once the gates of a chain decoded it. -/
theorem objection?_settled (hsteady : Reply.Steady ρ)
    (hgate : statusCodeGate ∈ bs → i.info.responseNotParse = true)
    (hnone : ∀ b ∈ bs, b.objection? i response = none) (b : Builtin) :
    b.objection? (settled bs i response) response = b.objection? i response := by
  unfold settled
  by_cases hmem : statusCodeGate ∈ bs
  · obtain ⟨hsuccess, j, hdecoded⟩ := decoded_of_gate (hnone statusCodeGate hmem)
    have hagain := Exchange.decoded_again hsteady hdecoded
    have hj := Exchange.eq_of_decoded hdecoded
    simp only [if_pos hmem, hdecoded]
    cases b with
    | statusVerdict =>
      have hparse : j.info.responseNotParse = true := by
        rw [hj]
        exact hgate hmem
      have hcodes : j.codes = i.codes := by
        rw [hj]
        rfl
      simp only [objection?, StatusVerdict.fieldOf_of_notParse hparse,
        StatusVerdict.fieldOf_of_notParse (hgate hmem), hcodes]
    | statusCodeGate => simp only [objection?, if_pos hsuccess, hdecoded, hagain]
    | accessLog | certificateGuard | recovery | requestId | callSpan => rfl
  · rw [if_neg hmem]

/-- One more gate settles nothing that a gate has not settled. -/
theorem settled_settled (hsteady : Reply.Steady ρ)
    (hnone : ∀ b' ∈ b :: bs, b'.objection? i response = none) :
    settled [b] (settled bs i response) response = settled (b :: bs) i response := by
  by_cases hb : statusCodeGate = b
  · subst hb
    obtain ⟨-, j, hdecoded⟩ := decoded_of_gate (hnone statusCodeGate List.mem_cons_self)
    have hagain := Exchange.decoded_again hsteady hdecoded
    by_cases hmem : statusCodeGate ∈ bs
    · simp [settled, hmem, hdecoded, hagain]
    · simp [settled, hmem, hdecoded]
  · simp [settled, hb]

theorem codes_settled (bs : List Builtin) (i : Invocation ρ) (response : RawResponse) :
    (settled bs i response).codes = i.codes := by
  unfold settled
  split
  · split
    next j hdecoded =>
      rw [Exchange.eq_of_decoded hdecoded]
      rfl
    · rfl
  · rfl

/-- A response that no stage has anything against leaves as itself, decoded if there is a gate. -/
theorem leaveAll_response_of_none (hsteady : Reply.Steady ρ)
    (hgate : statusCodeGate ∈ bs → i.info.responseNotParse = true)
    (hnone : ∀ b ∈ bs, b.objection? i response = none) :
    leaveAll bs codes ⟨.ok (.ok response), i, v⟩ =
      ⟨.ok (.ok response), settled bs i response, v⟩ := by
  induction bs with
  | nil => rfl
  | cons b bs ih =>
    have hgate' : statusCodeGate ∈ bs → i.info.responseNotParse = true :=
      fun h => hgate (List.mem_cons_of_mem b h)
    have hnone' : ∀ b ∈ bs, b.objection? i response = none :=
      fun b' h => hnone b' (List.mem_cons_of_mem b h)
    have hb : b.objection? (settled bs i response) response = none := by
      rw [objection?_settled hsteady hgate' hnone']
      exact hnone b List.mem_cons_self
    show b.leave codes (leaveAll bs codes _) = _
    rw [ih hgate' hnone', leave_response_of_none hb, settled_settled hsteady hnone]

/-- A response that some stage has something against leaves as the objection of one of them. -/
theorem failsWith_leaveAll_response (hsteady : Reply.Steady ρ) (hcodes : i.codes = codes)
    (hgate : statusCodeGate ∈ bs → i.info.responseNotParse = true)
    (hsome : ¬ ∀ b ∈ bs, b.objection? i response = none) :
    ∃ b ∈ bs, ∃ f, b.objection? i response = some f ∧
      (leaveAll bs codes ⟨.ok (.ok response), i, v⟩).FailsWith codes f := by
  induction bs with
  | nil => exact absurd (fun _ h => by cases h) hsome
  | cons b bs ih =>
    have hgate' : statusCodeGate ∈ bs → i.info.responseNotParse = true :=
      fun h => hgate (List.mem_cons_of_mem b h)
    by_cases hnone : ∀ b ∈ bs, b.objection? i response = none
    · have hb := objection?_settled hsteady hgate' hnone b
      cases hobjection : b.objection? i response with
      | none =>
        refine absurd (fun b' hb' => ?_) hsome
        rcases List.mem_cons.mp hb' with rfl | hmem
        · exact hobjection
        · exact hnone b' hmem
      | some f =>
        rw [hobjection] at hb
        refine ⟨b, List.mem_cons_self, f, hobjection, ?_⟩
        show (b.leave codes (leaveAll bs codes _)).FailsWith codes f
        rw [leaveAll_response_of_none hsteady hgate' hnone, leave_response_of_objection hb]
        exact ⟨(codes_settled bs i response).trans hcodes, f, rfl, .refl f⟩
    · obtain ⟨b', hmem, f, hf, hfails⟩ := ih hgate' hnone
      exact ⟨b', List.mem_cons_of_mem b hmem, f, hf, failsWith_leave hfails⟩

end Builtin

end CallChain
