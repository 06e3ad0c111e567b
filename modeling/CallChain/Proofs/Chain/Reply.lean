import CallChain.Proofs.Chain.Course
import CallChain.Proofs.Chain.Entering

/-!
# What becomes of the reply

A reply is decoded at the center of the chain, or by every gate a response leaves through, or not at
all.  Decoding puts the whole value of the body in place of the reply or leaves it alone
(`ReplySlot.settled`), and to decode again changes nothing, so there are two replies a call can end
with.  `Trip.settles` says which one it is.
-/

set_option autoImplicit false

namespace CallChain

open Exchange (Transfer conclusion)

variable {ρ : Type} [Reply ρ]

namespace ReplySlot

/-- What a body makes of a reply; nothing when the body does not decode. -/
def decoded? (s : ReplySlot ρ) (body : Bytes) : Option (ReplySlot ρ) :=
  match s.seen? with
  | Option.none => some s
  | some reply => (Reply.decode? reply body).map .live

/-- The reply after its body was to be decoded. -/
def settled (s : ReplySlot ρ) (body : Bytes) : ReplySlot ρ := (s.decoded? body).getD s

variable {s s' : ReplySlot ρ} {body : Bytes}

omit [Reply ρ] in
theorem value?_ofOption (reply : Option ρ) : (ofOption reply).value? = reply := by
  cases reply <;> rfl

theorem settled_of_decoded (h : s.decoded? body = some s') : s.settled body = s' := by
  rw [settled, h]
  rfl

theorem decoded?_again (hsteady : Reply.Steady ρ) (h : s.decoded? body = some s') :
    s'.decoded? body = some s' := by
  unfold decoded? at h
  cases hseen : s.seen? with
  | none =>
    rw [hseen] at h
    cases h
    rw [decoded?, hseen]
  | some reply =>
    rw [hseen] at h
    obtain ⟨reply', hdecode, rfl⟩ := Option.map_eq_some_iff.mp h
    show (Reply.decode? reply' body).map live = _
    rw [hsteady reply reply' body hdecode]
    rfl

theorem settled_settled (hsteady : Reply.Steady ρ) (s : ReplySlot ρ) (body : Bytes) :
    (s.settled body).settled body = s.settled body := by
  cases h : s.decoded? body with
  | none =>
    have hs : s.settled body = s := by
      rw [settled, h]
      rfl
    rw [hs, hs]
  | some s' => rw [settled_of_decoded h, settled_of_decoded (decoded?_again hsteady h)]

/-- What decodes once more has decoded before. -/
theorem decoded?_of_settled (hsteady : Reply.Steady ρ)
    (h : (s.settled body).decoded? body = some s') : s.decoded? body = some s' := by
  cases hs : s.decoded? body with
  | none =>
    rw [settled, hs] at h
    exact hs.symm.trans h
  | some t =>
    rw [settled_of_decoded hs, decoded?_again hsteady hs] at h
    exact h

/-- A reply that is settled is as it was or as the body has it. -/
theorem settled_cases (s : ReplySlot ρ) (body : Bytes) :
    s.settled body = s ∨ s.decoded? body = some (s.settled body) := by
  unfold settled
  cases s.decoded? body with
  | none => exact .inl rfl
  | some s' => exact .inr rfl

end ReplySlot

namespace Exchange

variable {place : Place} {i : Invocation ρ} {response : RawResponse} {v : World}

/-- Whether a response decodes is a matter of the reply alone. -/
theorem decoded_eq (i : Invocation ρ) (response : RawResponse) :
    decoded place i response = match i.reply.decoded? response.body with
      | some s => .ok { i with reply := s }
      | none => .error (undecodable i.codes place response) := by
  unfold decoded ReplySlot.decoded?
  cases i.reply.seen? with
  | none => rfl
  | some reply =>
    dsimp only
    cases Reply.decode? reply response.body <;> rfl

theorem reply_handOut (i : Invocation ρ) (response : RawResponse) (v : World) :
    (handOut place i response v).invocation.reply = i.reply.settled response.body := by
  rw [handOut, decoded_eq, ReplySlot.settled]
  cases i.reply.decoded? response.body <;> rfl

theorem decoded?_of_handOut (h : (handOut place i response v).outcome = .ok (.ok response)) :
    i.reply.decoded? response.body = some (i.reply.settled response.body) := by
  rw [handOut, decoded_eq] at h
  rw [ReplySlot.settled]
  cases hdecoded : i.reply.decoded? response.body with
  | none =>
    rw [hdecoded] at h
    cases h
  | some s => rfl

/-- Concluding decodes a response unless decoding was put off. -/
theorem reply_conclusion (noParse : Bool) (e : Departure ρ CallResult) :
    (e.andThen (conclusion noParse)).invocation.reply = e.invocation.reply ∨
      noParse = false ∧ ∃ response, e.outcome = .ok (.ok response) ∧
        (e.andThen (conclusion noParse)).invocation.reply =
          e.invocation.reply.settled response.body := by
  obtain ⟨_ | _ | response, i, v⟩ := e
  · exact .inl rfl
  · exact .inl rfl
  · cases noParse with
    | true => exact .inl rfl
    | false => exact .inr ⟨rfl, response, rfl, reply_handOut i response v⟩

theorem outcome_of_conclusion {noParse : Bool} {e : Departure ρ CallResult}
    (h : (e.andThen (conclusion noParse)).outcome = .ok (.ok response)) :
    e.outcome = .ok (.ok response) := by
  have hcarried := carried?_conclusion noParse e
  rw [h] at hcarried
  obtain ⟨p | f | response', i, v⟩ := e
  · cases hcarried
  · cases h
  · rw [Option.some.inj hcarried]

/-- What is concluded with a response has decoded it, unless decoding was put off. -/
theorem decoded?_of_conclusion {e : Departure ρ CallResult}
    (h : (e.andThen (conclusion false)).outcome = .ok (.ok response)) :
    e.invocation.reply.decoded? response.body =
      some (e.andThen (conclusion false)).invocation.reply := by
  have hcarried := carried?_conclusion false e
  rw [h] at hcarried
  obtain ⟨_ | _ | response', i, v⟩ := e
  · cases hcarried
  · cases h
  · obtain rfl : response = response' := Option.some.inj hcarried
    have hreply :
        (handOut .decodeFails i response v).invocation.reply = i.reply.settled response.body :=
      reply_handOut i response v
    exact (decoded?_of_handOut h).trans (congrArg some hreply.symm)

end Exchange

namespace Builtin

variable {b : Builtin} {bs : List Builtin} {codes : CodeRegistry} {d : Departure ρ CallResult}
  {response : RawResponse}

/-- Only a gate touches the reply, and only for a response of success. -/
theorem reply_leave (b : Builtin) (codes : CodeRegistry) (d : Departure ρ CallResult) :
    (b.leave codes d).invocation.reply = d.invocation.reply ∨
      b = statusCodeGate ∧ ∃ response, d.outcome = .ok (.ok response) ∧
        response.isSuccess = true ∧
        (b.leave codes d).invocation.reply = d.invocation.reply.settled response.body := by
  obtain ⟨p | f | response, i, v⟩ := d
  · cases b <;> exact .inl rfl
  · cases b <;> exact .inl rfl
  · cases b with
    | statusCodeGate =>
      cases hsuccess : response.isSuccess with
      | true =>
        have hleave : statusCodeGate.leave codes ⟨.ok (.ok response), i, v⟩ =
            Exchange.handOut .gateDecodes i response v := if_pos hsuccess
        rw [hleave]
        exact .inr ⟨rfl, response, rfl, hsuccess, Exchange.reply_handOut i response v⟩
      | false =>
        have hleave : statusCodeGate.leave codes ⟨.ok (.ok response), i, v⟩ =
            ⟨.ok (.error (StatusCodeGate.refusal i.codes response)), i, v⟩ :=
          if_neg (by rw [hsuccess]; exact Bool.false_ne_true)
        rw [hleave]
        exact .inl rfl
    | accessLog | statusVerdict | certificateGuard | recovery | requestId | callSpan =>
      exact .inl rfl

/-- No stage makes a success of anything else. -/
theorem outcome_of_leave (h : (b.leave codes d).outcome = .ok (.ok response)) :
    d.outcome = .ok (.ok response) := by
  have hcarried := carried?_leave b codes d
  rw [h] at hcarried
  obtain ⟨p | f | response', i, v⟩ := d
  · cases hcarried
  · cases b <;> cases h
  · rw [Option.some.inj hcarried]

theorem outcome_of_leaveAll (h : (leaveAll bs codes d).outcome = .ok (.ok response)) :
    d.outcome = .ok (.ok response) := by
  induction bs with
  | nil => exact h
  | cons b bs ih => exact ih (outcome_of_leave h)

/-- What comes through a gate as a success has passed it. -/
theorem decoded?_of_gate (h : (statusCodeGate.leave codes d).outcome = .ok (.ok response)) :
    d.invocation.reply.decoded? response.body =
      some (statusCodeGate.leave codes d).invocation.reply := by
  have hd := outcome_of_leave h
  obtain ⟨o, i, v⟩ := d
  subst hd
  cases hsuccess : response.isSuccess with
  | true =>
    have hleave : statusCodeGate.leave codes ⟨.ok (.ok response), i, v⟩ =
        Exchange.handOut .gateDecodes i response v := if_pos hsuccess
    rw [hleave] at h ⊢
    rw [Exchange.reply_handOut]
    exact Exchange.decoded?_of_handOut h
  | false =>
    have hleave : statusCodeGate.leave codes ⟨.ok (.ok response), i, v⟩ =
        ⟨.ok (.error (StatusCodeGate.refusal i.codes response)), i, v⟩ :=
      if_neg (by rw [hsuccess]; exact Bool.false_ne_true)
    rw [hleave] at h
    cases h

/-- Without a response, no stage touches the reply. -/
theorem reply_leaveAll_of_unanswered (h : carried? d.outcome = none) :
    (leaveAll bs codes d).invocation.reply = d.invocation.reply := by
  induction bs with
  | nil => rfl
  | cons b bs ih =>
    rcases reply_leave b codes (leaveAll bs codes d) with hsame | ⟨-, r, hr, -⟩
    · exact hsame.trans ih
    · have hcarried := carried?_leaveAll bs codes d
      rw [hr, h] at hcarried
      cases hcarried

/-- A chain touches the reply only for a response of success, and only if it has a gate. -/
theorem reply_leaveAll (hsteady : Reply.Steady ρ) (bs : List Builtin) (codes : CodeRegistry)
    (d : Departure ρ CallResult) :
    (leaveAll bs codes d).invocation.reply = d.invocation.reply ∨
      statusCodeGate ∈ bs ∧ ∃ response, d.outcome = .ok (.ok response) ∧
        response.isSuccess = true ∧
        (leaveAll bs codes d).invocation.reply = d.invocation.reply.settled response.body := by
  induction bs with
  | nil => exact .inl rfl
  | cons b bs ih =>
    rcases reply_leave b codes (leaveAll bs codes d) with h | ⟨rfl, r, hr, hsuccess, h⟩
    · rcases ih with hsame | ⟨hgate, r, hr, hsuccess, hreply⟩
      · exact .inl (h.trans hsame)
      · exact .inr ⟨List.mem_cons_of_mem b hgate, r, hr, hsuccess, h.trans hreply⟩
    · -- An inner gate may have decoded the same body before, and to decode again changes nothing.
      have hd := outcome_of_leaveAll hr
      refine .inr ⟨List.mem_cons_self, r, hd, hsuccess, h.trans ?_⟩
      rcases ih with hsame | ⟨-, r', hr', -, hreply⟩
      · rw [hsame]
      · rw [hd] at hr'
        cases hr'
        rw [hreply, ReplySlot.settled_settled hsteady]

/-- What comes through a chain with a gate as a success was decoded. -/
theorem decoded?_of_leaveAll (hsteady : Reply.Steady ρ) (hgate : statusCodeGate ∈ bs)
    (h : (leaveAll bs codes d).outcome = .ok (.ok response)) :
    d.invocation.reply.decoded? response.body = some (leaveAll bs codes d).invocation.reply := by
  induction bs with
  | nil => cases hgate
  | cons b bs ih =>
    have hinner : (leaveAll bs codes d).outcome = .ok (.ok response) := outcome_of_leave h
    by_cases hb : b = statusCodeGate
    · subst hb
      have hdecoded : (leaveAll bs codes d).invocation.reply.decoded? response.body =
          some (statusCodeGate.leave codes (leaveAll bs codes d)).invocation.reply := decoded?_of_gate h
      rcases reply_leaveAll hsteady bs codes d with hsame | ⟨-, r, hr, -, hreply⟩
      · rwa [hsame] at hdecoded
      · rw [outcome_of_leaveAll hinner] at hr
        cases hr
        rw [hreply] at hdecoded
        exact ReplySlot.decoded?_of_settled hsteady hdecoded
    · have hmem : statusCodeGate ∈ bs := (List.mem_cons.mp hgate).resolve_left (Ne.symm hb)
      have hreply : (leaveAll (b :: bs) codes d).invocation.reply =
          (leaveAll bs codes d).invocation.reply :=
        (reply_leave b codes (leaveAll bs codes d)).resolve_right fun hgate => hb hgate.1
      rw [hreply]
      exact ih hmem hinner

end Builtin

namespace Chain

variable {R : Resumption} {skippers : List Skipper} {bs : List Builtin} {x : Entrance ρ}
  {t : Option Transfer} {d : Departure ρ CallResult}

/-- What became of a reply, with or without a gate on the way and with decoding put off or not. -/
structure Settlement (gated : Prop) (noParse : Bool) (received : Option RawResponse)
    (o : Except Panic CallResult) (before after : ReplySlot ρ) : Prop where
  /-- Without a response the reply is as before. -/
  unanswered : received = none → after = before
  /-- With a response it is as before, or all that the body makes of it. -/
  either : ∀ r, received = some r → after = before ∨ before.decoded? r.body = some after
  /-- It is as before if a gate turned the response away. -/
  turnedAway : ∀ r, received = some r → gated → r.isSuccess = false → after = before
  /-- It is as before if decoding was put off and no gate made up for it. -/
  unread : ¬ gated → noParse = true → after = before
  /-- A call that succeeds has decoded the reply in every other case. -/
  returned : ∀ r, o = .ok (.ok r) →
    received = some r ∧ (gated ∨ noParse = false → before.decoded? r.body = some after)

theorem settlement_refused (hsteady : Reply.Steady ρ) (ran : List Builtin) (codes : CodeRegistry)
    (f : CallFailure) (i : Invocation ρ) (v : World) (gated : Prop) (noParse : Bool) :
    Settlement gated noParse none (Builtin.leaveAll ran codes ⟨.ok (.error f), i, v⟩).outcome
      i.reply (Builtin.leaveAll ran codes ⟨.ok (.error f), i, v⟩).invocation.reply := by
  have hsame : (Builtin.leaveAll ran codes ⟨.ok (.error f), i, v⟩).invocation.reply = i.reply := by
    rcases Builtin.reply_leaveAll hsteady ran codes ⟨.ok (.error f), i, v⟩ with h | ⟨-, r, hr, -⟩
    · exact h
    · cases hr
  refine ⟨fun _ => hsame, ?_, ?_, fun _ _ => hsame, fun r hr => ?_⟩
  · rintro r ⟨⟩
  · rintro r ⟨⟩
  · cases Builtin.outcome_of_leaveAll hr

/-- The reply at the end of a chain is as before, or a response that nothing kept from being decoded
was decoded. -/
theorem reply_fetched (hsteady : Reply.Steady ρ) (ran : List Builtin) (codes : CodeRegistry)
    (e : Departure ρ CallResult) (noParse : Bool) {d : Departure ρ CallResult}
    (hd : d = e.andThen (conclusion (noParse || decide (Builtin.statusCodeGate ∈ ran)))) :
    (Builtin.leaveAll ran codes d).invocation.reply = e.invocation.reply ∨
      ∃ r, e.outcome = .ok (.ok r) ∧
        (Builtin.leaveAll ran codes d).invocation.reply = e.invocation.reply.settled r.body ∧
        (Builtin.statusCodeGate ∈ ran → r.isSuccess = true) ∧
        (Builtin.statusCodeGate ∈ ran ∨ noParse = false) := by
  -- Either place may have decoded the response, but not both: a gate puts off the decoding at the center.
  have hconclusion :=
    Exchange.reply_conclusion (noParse || decide (Builtin.statusCodeGate ∈ ran)) e
  rw [← hd] at hconclusion
  rcases Builtin.reply_leaveAll hsteady ran codes d with hsame | ⟨hgate, r, hr, hsuccess, hreply⟩
  · rcases hconclusion with hsame' | ⟨hparse, r, hr, hreply⟩
    · exact .inl (hsame.trans hsame')
    · obtain ⟨hnoParse, hgate⟩ := Bool.or_eq_false_iff.mp hparse
      have hgate : Builtin.statusCodeGate ∉ ran := of_decide_eq_false hgate
      exact .inr ⟨r, hr, hsame.trans hreply, fun h => absurd h hgate, .inr hnoParse⟩
  · rcases hconclusion with hsame' | ⟨hparse, -⟩
    · rw [hd] at hr
      rw [hsame'] at hreply
      exact .inr ⟨r, Exchange.outcome_of_conclusion hr, hreply, fun _ => hsuccess, .inl hgate⟩
    · rw [decide_eq_true hgate, Bool.or_true] at hparse
      cases hparse

theorem settlement_fetched (hsteady : Reply.Steady ρ) (ran : List Builtin) (codes : CodeRegistry)
    (e : Departure ρ CallResult) (noParse : Bool) {d : Departure ρ CallResult}
    (hd : d = e.andThen (conclusion (noParse || decide (Builtin.statusCodeGate ∈ ran)))) :
    Settlement (Builtin.statusCodeGate ∈ ran) noParse (carried? e.outcome)
      (Builtin.leaveAll ran codes d).outcome e.invocation.reply
      (Builtin.leaveAll ran codes d).invocation.reply := by
  have hreply := reply_fetched hsteady ran codes e noParse hd
  refine ⟨fun hnone => ?_, fun r hr => ?_, fun r hr hgate hfailed => ?_, fun hgate hnoParse => ?_,
    fun r hr => ?_⟩
  · rcases hreply with hsame | ⟨r, he, -⟩
    · exact hsame
    · rw [he] at hnone
      cases hnone
  · rcases hreply with hsame | ⟨r', he, hsettled, -⟩
    · exact .inl hsame
    · rw [he] at hr
      cases hr
      rw [hsettled]
      exact ReplySlot.settled_cases _ _
  · rcases hreply with hsame | ⟨r', he, -, hsuccess, -⟩
    · exact hsame
    · rw [he] at hr
      cases hr
      rw [hsuccess hgate] at hfailed
      cases hfailed
  · rcases hreply with hsame | ⟨r, -, -, -, h | h⟩
    · exact hsame
    · exact absurd h hgate
    · rw [hnoParse] at h
      cases h
  · have hinner := Builtin.outcome_of_leaveAll hr
    have he : e.outcome = .ok (.ok r) := by
      rw [hd] at hinner
      exact Exchange.outcome_of_conclusion hinner
    refine ⟨by rw [he]; rfl, fun hparse => ?_⟩
    by_cases hgate : Builtin.statusCodeGate ∈ ran
    · have hsame : d.invocation.reply = e.invocation.reply := by
        rw [hd, decide_eq_true hgate, Bool.or_true]
        obtain ⟨_, i, v⟩ := e
        cases he
        rfl
      rw [← hsame]
      exact Builtin.decoded?_of_leaveAll hsteady hgate hr
    · have hnoParse := hparse.resolve_left hgate
      rw [decide_eq_false hgate, Bool.or_false, hnoParse] at hd
      have hsame : (Builtin.leaveAll ran codes d).invocation.reply = d.invocation.reply :=
        (Builtin.reply_leaveAll hsteady ran codes d).resolve_right fun h => hgate h.1
      rw [hsame, hd]
      rw [hd] at hinner
      exact Exchange.decoded?_of_conclusion hinner

/-- What becomes of the reply of a call. -/
theorem Trip.settlement (hsteady : Reply.Steady ρ) (h : Trip R skippers bs x t d) :
    Settlement (Builtin.statusCodeGate ∈ passed skippers bs x.invocation)
      x.invocation.info.responseNotParse (t.bind Transfer.received?) d.outcome x.invocation.reply
      d.invocation.reply := by
  have hreply (ran : List Builtin) :
      (Builtin.enterAll ran x).invocation.reply = x.invocation.reply := by
    rw [Builtin.invocation_enterAll]
  cases h with
  | refused _ hy =>
    subst hy
    rw [← hreply]
    exact settlement_refused hsteady _ _ _ _ _ _ _
  | fetched _ hy hcourse =>
    subst hy
    have hinfo := (Builtin.Entered.enterAll (passed skippers bs x.invocation) x).info
    rw [← hreply, ← hcourse.carried?_eq, ← hcourse.invocation_eq]
    refine settlement_fetched hsteady _ _ _ _ ?_
    rw [hcourse.invocation_eq, hinfo]

/-- Without a response, the reply stays as it is. -/
theorem Trip.reply_eq (h : Trip R skippers bs x t d) (hnone : carried? d.outcome = none) :
    d.invocation.reply = x.invocation.reply := by
  have hreply (ran : List Builtin) :
      (Builtin.enterAll ran x).invocation.reply = x.invocation.reply := by
    rw [Builtin.invocation_enterAll]
  cases h with
  | refused _ hy =>
    subst hy
    exact (Builtin.reply_leaveAll_of_unanswered rfl).trans (hreply _)
  | fetched _ hy hcourse =>
    subst hy
    rw [Builtin.carried?_leaveAll] at hnone
    rw [Builtin.reply_leaveAll_of_unanswered hnone, ← hreply, ← hcourse.invocation_eq]
    refine (Exchange.reply_conclusion _ _).resolve_right ?_
    rintro ⟨-, r, hr, -⟩
    rw [Exchange.carried?_conclusion, hr] at hnone
    cases hnone

end Chain

end CallChain
