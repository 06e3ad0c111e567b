import CallChain.Proofs.Chain.Entering
import CallChain.Proofs.Chain.Leaving
import CallChain.Proofs.Exchange.Outcome

/-!
# Chains of the same stages

Two chains with the same stages, in whatever order and however often each is listed, treat a call alike.
`Builtin.enterAll` brings the call to the same center, where the same exchange takes place, and what comes
back leaves by `Builtin.leaveAll`, to which it matters which stages there are.  Where the verdict and the
gate both have something against a response, the one further inside speaks first: that is the only
difference that the order makes, and `Disputed` says when it can come up.
-/

set_option autoImplicit false

namespace CallChain

variable {ρ : Type} [Reply ρ]

/-- Whether the gate has something against a response to a call with the given reply. -/
def Disputed (given : Option ρ) (response : RawResponse) : Prop :=
  response.isSuccess = false ∨
    ∃ reply, given = some reply ∧ Reply.decode? reply response.body = none

/-- Two results of a call with the given reply that differ in the histories of failures at most, in the
reply that a failed call leaves behind, and in the failure of a response in dispute. -/
inductive Agree (given : Option ρ) :
    Except Panic CallResult × Option ρ → Except Panic CallResult × Option ρ → Prop where
  | panicked (p : Panic) (reply : Option ρ) : Agree given (.error p, reply) (.error p, reply)
  | answered (response : RawResponse) (reply : Option ρ) :
      Agree given (.ok (.ok response), reply) (.ok (.ok response), reply)
  | failed {f g : CallFailure} (reply reply' : Option ρ) (h : f.Alike g) :
      Agree given (.ok (.error f), reply) (.ok (.error g), reply')
  | disputed {f g : CallFailure} {response : RawResponse} (reply reply' : Option ρ)
      (hf : f.response = some response) (hg : g.response = some response)
      (h : Disputed given response) : Agree given (.ok (.error f), reply) (.ok (.error g), reply')

/-- What the caller gets to see of a departure. -/
def Departure.result (d : Departure ρ CallResult) : Except Panic CallResult × Option ρ :=
  (d.outcome, d.invocation.reply.value?)

namespace Agree

variable {given : Option ρ}

theorem refl (r : Except Panic CallResult × Option ρ) : Agree given r r := by
  obtain ⟨p | f | response, reply⟩ := r
  · exact .panicked p reply
  · exact .failed reply reply (.refl f)
  · exact .answered response reply

theorem of_failsWith {codes codes' : CodeRegistry} {g : CallFailure}
    {d d' : Departure ρ CallResult} (h : d.FailsWith codes g) (h' : d'.FailsWith codes' g) :
    Agree given d.result d'.result := by
  obtain ⟨-, f, hf, halike⟩ := h
  obtain ⟨-, f', hf', halike'⟩ := h'
  unfold Departure.result
  rw [hf, hf']
  exact .failed _ _ (halike.trans halike'.symm)

end Agree

namespace Builtin

variable {b b' : Builtin} {bs bs' : List Builtin} {codes : CodeRegistry} {i j : Invocation ρ}
  {v v' : World} {response : RawResponse} {f g : CallFailure} {given : Option ρ}

theorem decoded_kin {place : Place} (hkin : i.Kin j) (hreply : i.reply = j.reply) :
    Exchange.decoded place j response =
      (Exchange.decoded place i response).map fun k => { k with options := j.options } := by
  obtain ⟨⟨options, rfl⟩, -⟩ := hkin
  unfold Exchange.decoded
  dsimp only
  cases i.reply.seen? with
  | none => rfl
  | some reply =>
    dsimp only
    cases Reply.decode? reply response.body <;> rfl

theorem objection?_kin (hkin : i.Kin j) (hreply : i.reply = j.reply) (b : Builtin)
    (response : RawResponse) : b.objection? j response = b.objection? i response := by
  have hparse : j.info.responseNotParse = i.info.responseNotParse := by
    obtain ⟨-, stages, hstages⟩ := hkin
    rw [hstages]
  have hcodes : j.codes = i.codes := by
    obtain ⟨⟨options, rfl⟩, -⟩ := hkin
    rfl
  cases b with
  | statusVerdict =>
    simp only [objection?, StatusVerdict.fieldOf, hparse, hcodes, hreply]
  | statusCodeGate =>
    simp only [objection?, decoded_kin hkin hreply, hcodes]
    cases Exchange.decoded .gateDecodes i response <;> rfl
  | accessLog | certificateGuard | recovery | requestId | callSpan => rfl

theorem reply_settled_kin (hkin : i.Kin j) (hreply : i.reply = j.reply)
    (hmem : ∀ b, b ∈ bs ↔ b ∈ bs') :
    (settled bs i response).reply = (settled bs' j response).reply := by
  simp only [settled, hmem, decoded_kin hkin hreply]
  split
  · cases Exchange.decoded .gateDecodes i response with
    | ok k => rfl
    | error f => exact hreply
  · exact hreply

/-- The gate has nothing against a response that is not in dispute. -/
theorem disputed_of_objection (hgiven : i.reply.seen? = given)
    (h : statusCodeGate.objection? i response = some f) : Disputed given response := by
  unfold objection? at h
  dsimp only at h
  split at h
  · split at h
    · cases h
    next hdecoded =>
      obtain ⟨⟨reply, hseen, hdecode⟩, -⟩ := Exchange.decoded_eq_error hdecoded
      exact .inr ⟨reply, hgiven.symm.trans hseen, hdecode⟩
  next hsuccess => exact .inl (by simpa using hsuccess)

/-- Two stages with something against a response have the same against it, or it is in dispute. -/
theorem eq_or_disputed (hgiven : b = statusCodeGate ∨ b' = statusCodeGate → i.reply.seen? = given)
    (hf : b.objection? i response = some f) (hg : b'.objection? i response = some g) :
    f = g ∨ Disputed given response := by
  by_cases hb : b = statusCodeGate
  · subst hb
    exact .inr (disputed_of_objection (hgiven (.inl rfl)) hf)
  · by_cases hb' : b' = statusCodeGate
    · subst hb'
      exact .inr (disputed_of_objection (hgiven (.inr rfl)) hg)
    · -- Besides the gate only the verdict has anything against a response.
      have hverdict : b = statusVerdict := by
        cases b <;> first | rfl | exact absurd rfl hb | cases hf
      have hverdict' : b' = statusVerdict := by
        cases b' <;> first | rfl | exact absurd rfl hb' | cases hg
      subst hverdict hverdict'
      rw [hf] at hg
      exact .inl (Option.some.inj hg)

/-- What comes back from one exchange leaves two chains of the same stages alike. -/
theorem agree_leaveAll (hsteady : Reply.Steady ρ) (hmem : ∀ b, b ∈ bs ↔ b ∈ bs')
    (hkin : i.Kin j) (hreply : i.reply = j.reply) (hcodes : i.codes = codes)
    (hgate : statusCodeGate ∈ bs → i.info.responseNotParse = true)
    (hgiven : statusCodeGate ∈ bs → i.reply.seen? = given) (o : Except Panic CallResult) :
    Agree given (leaveAll bs codes ⟨o, i, v⟩).result (leaveAll bs' codes ⟨o, j, v'⟩).result := by
  have hcodes' : j.codes = codes := by
    obtain ⟨⟨options, rfl⟩, -⟩ := hkin
    exact hcodes
  have hgate' : statusCodeGate ∈ bs' → j.info.responseNotParse = true := by
    obtain ⟨-, stages, hstages⟩ := hkin
    rw [hstages]
    exact fun h => hgate ((hmem _).mpr h)
  obtain p | f | response := o
  · by_cases hrecovery : recovery ∈ bs
    · have h := failsWith_leaveAll_panic (v := v) (p := p) hcodes hrecovery
      have h' := failsWith_leaveAll_panic (v := v') (p := p) hcodes' ((hmem _).mp hrecovery)
      exact .of_failsWith h h'
    · rw [leaveAll_panic hrecovery, leaveAll_panic fun h => hrecovery ((hmem _).mpr h)]
      unfold Departure.result
      rw [hreply]
      exact .refl _
  · have h : (⟨.ok (.error f), i, v⟩ : Departure ρ CallResult).FailsWith codes f :=
      ⟨hcodes, f, rfl, .refl f⟩
    have h' : (⟨.ok (.error f), j, v'⟩ : Departure ρ CallResult).FailsWith codes f :=
      ⟨hcodes', f, rfl, .refl f⟩
    exact .of_failsWith (failsWith_leaveAll h) (failsWith_leaveAll h')
  · have hobjection (b : Builtin) : b.objection? j response = b.objection? i response :=
      objection?_kin hkin hreply b response
    by_cases hnone : ∀ b ∈ bs, b.objection? i response = none
    · have hnone' : ∀ b ∈ bs', b.objection? j response = none := fun b hb => by
        rw [hobjection]
        exact hnone b ((hmem b).mpr hb)
      rw [leaveAll_response_of_none hsteady hgate hnone,
        leaveAll_response_of_none hsteady hgate' hnone']
      unfold Departure.result
      rw [reply_settled_kin hkin hreply hmem]
      exact .refl _
    · have hsome' : ¬ ∀ b ∈ bs', b.objection? j response = none := fun h => hnone fun b hb => by
        rw [← hobjection]
        exact h b ((hmem b).mp hb)
      obtain ⟨b, hb, f, hf, hfails⟩ := failsWith_leaveAll_response (v := v) hsteady hcodes hgate hnone
      obtain ⟨b', hb', g, hg, hfails'⟩ :=
        failsWith_leaveAll_response (v := v') hsteady hcodes' hgate' hsome'
      rw [hobjection] at hg
      have hgiven' : b = statusCodeGate ∨ b' = statusCodeGate → i.reply.seen? = given := by
        rintro (rfl | rfl)
        · exact hgiven hb
        · exact hgiven ((hmem _).mpr hb')
      rcases eq_or_disputed hgiven' hf hg with rfl | hdisputed
      · exact .of_failsWith hfails hfails'
      · obtain ⟨-, f', hf', halike⟩ := hfails
        obtain ⟨-, g', hg', halike'⟩ := hfails'
        unfold Departure.result
        rw [hf', hg']
        exact .disputed _ _ (halike.response.trans (response_of_objection hf))
          (halike'.response.trans (response_of_objection hg)) hdisputed

end Builtin

namespace Chain

open Call (Ends)

variable {R : Resumption} {skippers : List Skipper} {bs bs' : List Builtin} {x x' : Entrance ρ}
  {d : Departure ρ CallResult}

/-- A chain that refuses no call is the way in, the exchange and the way out. -/
theorem endsFrom_iff_center
    (hskip : Skipper.any skippers x.invocation.method x.invocation.target = false)
    (hpass : ∀ b ∈ bs, ¬ b.Refuses x.invocation) :
    EndsFrom R skippers bs x d ↔
      ∃ e, Ends R (Exchange.run (Builtin.enterAll bs x).context) (Builtin.enterAll bs x).invocation
          (Builtin.enterAll bs x).world e ∧
        d = Builtin.leaveAll bs x.invocation.codes e := by
  induction bs generalizing x d with
  | nil =>
    rw [endsFrom_nil_iff]
    exact ⟨fun h => ⟨d, h, rfl⟩, fun ⟨_, h, hd⟩ => hd ▸ h⟩
  | cons b bs ih =>
    have hinvocation := Builtin.invocation_enter b x
    have hcodes : (b.enter x).invocation.codes = x.invocation.codes := by
      rw [hinvocation]
      rfl
    have hskip' : Skipper.any skippers (b.enter x).invocation.method
        (b.enter x).invocation.target = false := by
      rw [hinvocation]
      exact hskip
    have hpass' : ∀ b' ∈ bs, ¬ b'.Refuses (b.enter x).invocation := by
      rw [hinvocation]
      exact fun b' hb' => hpass b' (List.mem_cons_of_mem b hb')
    rw [endsFrom_cons_iff hskip, if_neg (hpass b List.mem_cons_self)]
    constructor
    · rintro ⟨d', hd', rfl⟩
      obtain ⟨e, he, rfl⟩ := (ih hskip' hpass').mp hd'
      refine ⟨e, he, ?_⟩
      rw [hcodes]
      rfl
    · rintro ⟨e, he, rfl⟩
      refine ⟨_, (ih hskip' hpass').mpr ⟨e, he, rfl⟩, ?_⟩
      rw [hcodes]
      rfl

/-- A chain with a guard turns away every call of a client without a certificate. -/
theorem endsFrom_of_uncertified
    (hskip : Skipper.any skippers x.invocation.method x.invocation.target = false)
    (hmode : x.invocation.client.mode ≠ .mutualTls) (hguard : Builtin.certificateGuard ∈ bs) :
    ∃ d₀ : Departure ρ CallResult, (∀ d, EndsFrom R skippers bs x d ↔ d = d₀) ∧
      d₀.FailsWith x.invocation.codes (CertificateGuard.refusal x.invocation.client) ∧
      d₀.world.requests = x.world.requests := by
  induction bs generalizing x with
  | nil => cases hguard
  | cons b bs ih =>
    have hinvocation := Builtin.invocation_enter b x
    by_cases hrefuses : b.Refuses x.invocation
    · refine ⟨⟨.ok (.error (CertificateGuard.refusal x.invocation.client)), x.invocation,
        x.world.quiet⟩, fun d => ?_, ⟨rfl, _, rfl, .refl _⟩, World.requests_quiet x.world⟩
      rw [endsFrom_cons_iff hskip, if_pos hrefuses]
    · have hmem : Builtin.certificateGuard ∈ bs := by
        rcases List.mem_cons.mp hguard with rfl | hmem
        · exact absurd ⟨rfl, hmode⟩ hrefuses
        · exact hmem
      obtain ⟨d₀, hd₀, hfails, hrequests⟩ := ih (x := b.enter x)
        (by rw [hinvocation]; exact hskip) (by rw [hinvocation]; exact hmode) hmem
      rw [hinvocation] at hfails
      refine ⟨b.leave x.invocation.codes d₀, fun d => ?_, Builtin.failsWith_leave hfails, ?_⟩
      · rw [endsFrom_cons_iff hskip, if_neg hrefuses]
        simp only [hd₀, exists_eq_left]
      · rw [Builtin.requests_leave, hrequests, Builtin.requests_enter]

/-- Exchanges of kindred calls end alike. -/
theorem ends_exchange_of_kin (hR : R.Blind) {ctx ctx' : CallContext} {i j : Invocation ρ}
    {w w' : World} (hconnector : i.client.connector.Blind) (hinfo : i.info.Blind)
    (hctx : ctx.Kin ctx') (hkin : i.Kin j) (hw : w.quiet = w'.quiet)
    {e : Departure ρ CallResult} (h : Ends R (Exchange.run ctx) i w e) :
    ∃ reply, e.invocation = { i with reply := reply } ∧
      Ends R (Exchange.run ctx') j w' ⟨e.outcome, { j with reply := reply }, e.world⟩ := by
  obtain ⟨w₁, hw₁, hruns⟩ := h
  obtain ⟨⟨o, j'⟩, w₁', hends, ⟨ho, reply, hi', hj'⟩, hquiet⟩ :=
    (Exchange.alike_run hconnector hinfo hctx hkin).ends hR hruns hw
  obtain rfl : e.outcome = o := ho
  obtain rfl : j' = { j with reply := reply } := hj'
  exact ⟨reply, hi', w₁', hquiet.symm.trans hw₁, hends⟩

omit [Reply ρ] in
theorem any_of_kin (hkin : x.Kin x') :
    Skipper.any skippers x'.invocation.method x'.invocation.target =
      Skipper.any skippers x.invocation.method x.invocation.target := by
  obtain ⟨options, hrest⟩ := hkin.invocation.rest
  rw [hrest]

/-- Whatever stages stand aside, they leave the exchange alone. -/
theorem endsFrom_agree_of_skips (hR : R.Blind) (hconnector : x.invocation.client.connector.Blind)
    (hinfo : x.invocation.info.Blind) (hkin : x.Kin x')
    (hskip : Skipper.any skippers x.invocation.method x.invocation.target = true)
    (h : EndsFrom R skippers bs x d) (given : Option ρ) :
    ∃ d', EndsFrom R skippers bs' x' d' ∧ d.world.requests = d'.world.requests ∧
      Agree given d.result d'.result := by
  have hctx : x.context.Kin x'.context :=
    ⟨congrArg (·.token) hkin.context, congrArg (·.deadline) hkin.context⟩
  have hcenter := (endsFrom_iff_of_skips hskip).mp h
  obtain ⟨reply, hreply, h'⟩ :=
    ends_exchange_of_kin hR hconnector hinfo hctx hkin.invocation hkin.world hcenter
  refine ⟨_, (endsFrom_iff_of_skips ((any_of_kin hkin).trans hskip)).mpr h', rfl, ?_⟩
  unfold Departure.result
  rw [hreply]
  exact .refl _

/-- A guard turns a call without a certificate away wherever it stands. -/
theorem endsFrom_agree_of_uncertified (hkin : x.Kin x') (hmem : ∀ b, b ∈ bs ↔ b ∈ bs')
    (hskip : Skipper.any skippers x.invocation.method x.invocation.target = false)
    (hmode : x.invocation.client.mode ≠ .mutualTls) (hguard : Builtin.certificateGuard ∈ bs)
    (h : EndsFrom R skippers bs x d) (given : Option ρ) :
    ∃ d', EndsFrom R skippers bs' x' d' ∧ d.world.requests = d'.world.requests ∧
      Agree given d.result d'.result := by
  have hclient : x'.invocation.client = x.invocation.client := by
    obtain ⟨options, hrest⟩ := hkin.invocation.rest
    rw [hrest]
  obtain ⟨d₀, hd₀, hfails, hrequests⟩ := endsFrom_of_uncertified (R := R) hskip hmode hguard
  obtain ⟨d₀', hd₀', hfails', hrequests'⟩ := endsFrom_of_uncertified (R := R)
    ((any_of_kin hkin).trans hskip) (by rw [hclient]; exact hmode) ((hmem _).mp hguard)
  obtain rfl := (hd₀ d).mp h
  refine ⟨d₀', (hd₀' d₀').mpr rfl, ?_, ?_⟩
  · rw [hrequests, hrequests', ← World.requests_quiet, hkin.world, World.requests_quiet]
  · rw [hclient] at hfails'
    exact .of_failsWith hfails hfails'

/-- A call that no stage refuses meets the same exchange, and its outcome leaves alike. -/
theorem endsFrom_agree_of_passes (hR : R.Blind) (hsteady : Reply.Steady ρ)
    (hconnector : x.invocation.client.connector.Blind) (hinfo : x.invocation.info.Blind)
    (hkin : x.Kin x') (hmem : ∀ b, b ∈ bs ↔ b ∈ bs')
    (hskip : Skipper.any skippers x.invocation.method x.invocation.target = false)
    (hpass : ∀ b ∈ bs, ¬ b.Refuses x.invocation) (h : EndsFrom R skippers bs x d) :
    ∃ d', EndsFrom R skippers bs' x' d' ∧ d.world.requests = d'.world.requests ∧
      Agree x.invocation.reply.seen? d.result d'.result := by
  have hclient' : x'.invocation.client = x.invocation.client := by
    obtain ⟨options, hrest⟩ := hkin.invocation.rest
    rw [hrest]
  have hpass' : ∀ b ∈ bs', ¬ b.Refuses x'.invocation := by
    rintro b hb ⟨hguard, hmode⟩
    rw [hclient'] at hmode
    exact hpass b ((hmem b).mpr hb) ⟨hguard, hmode⟩
  -- The way in.
  have hentered := Builtin.Entered.enterAll bs x
  obtain ⟨hctx, hinvocation, hquiet⟩ := hentered.kin (Builtin.Entered.enterAll bs' x') hkin hmem
  have hclient : (Builtin.enterAll bs x).invocation.client = x.invocation.client := by
    rw [hentered.invocation]
  have hinfo' : (Builtin.enterAll bs x).invocation.info.Blind := by
    rw [hentered.info]
    exact ⟨hinfo.resolver, hinfo.process⟩
  have hgate (hb : Builtin.statusCodeGate ∈ bs) :
      (Builtin.enterAll bs x).invocation.info.responseNotParse = true := by
    rw [hentered.info]
    simp [hb]
  -- The exchange.
  obtain ⟨e, he, rfl⟩ := (endsFrom_iff_center hskip hpass).mp h
  obtain ⟨reply, hreply, he'⟩ :=
    ends_exchange_of_kin hR (by rw [hclient]; exact hconnector) hinfo' hctx hinvocation hquiet he
  have hgiven (hb : Builtin.statusCodeGate ∈ bs) : reply.seen? = x.invocation.reply.seen? := by
    obtain ⟨_, hconcluded⟩ := Exchange.concluded_of_ends he
    have hsame := hconcluded.reply (hgate hb)
    rw [hreply, hentered.invocation] at hsame
    exact congrArg (·.seen?) hsame
  -- The way out.
  have hskip' := (any_of_kin hkin).trans hskip
  refine ⟨_, (endsFrom_iff_center hskip' hpass').mpr ⟨_, he', rfl⟩, ?_, ?_⟩
  · rw [Builtin.requests_leaveAll, Builtin.requests_leaveAll]
  · obtain ⟨o, i, v⟩ := e
    obtain rfl : i = { (Builtin.enterAll bs x).invocation with reply := reply } := hreply
    have hcodes : x'.invocation.codes = x.invocation.codes := congrArg (·.codes) hclient'
    rw [hcodes]
    exact Builtin.agree_leaveAll hsteady hmem (hinvocation.withReply reply) rfl
      (congrArg (·.codes) hclient) hgate hgiven o

/-- Chains of the same stages treat kindred calls alike: whatever the one can come to, the other can
come to as well, up to histories and disputes, with the same requests handed over. -/
theorem endsFrom_agree (hR : R.Blind) (hsteady : Reply.Steady ρ)
    (hconnector : x.invocation.client.connector.Blind) (hinfo : x.invocation.info.Blind)
    (hkin : x.Kin x') (hmem : ∀ b, b ∈ bs ↔ b ∈ bs') (h : EndsFrom R skippers bs x d) :
    ∃ d', EndsFrom R skippers bs' x' d' ∧ d.world.requests = d'.world.requests ∧
      Agree x.invocation.reply.seen? d.result d'.result := by
  cases hskip : Skipper.any skippers x.invocation.method x.invocation.target with
  | true => exact endsFrom_agree_of_skips hR hconnector hinfo hkin hskip h _
  | false =>
    by_cases hguard : Builtin.certificateGuard ∈ bs ∧ x.invocation.client.mode ≠ .mutualTls
    · exact endsFrom_agree_of_uncertified hkin hmem hskip hguard.2 hguard.1 h _
    · have hpass : ∀ b ∈ bs, ¬ b.Refuses x.invocation := by
        rintro b hb ⟨rfl, hmode⟩
        exact hguard ⟨hb, hmode⟩
      exact endsFrom_agree_of_passes hR hsteady hconnector hinfo hkin hmem hskip hpass h

end Chain

end CallChain
