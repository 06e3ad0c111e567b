import CallChain.Proofs.Chain.Reordering
import CallChain.Proofs.Client.Invoke

/-!
# Calls through chains of the same stages

A list of names stands for the stages it names.  Two calls that differ in such lists only, where the
lists name the same stages, hand over the same requests and have results that `Agree`: the order of the
names, and how often each is given, do not matter.
-/

set_option autoImplicit false

namespace CallChain

/-- A scripted remote side whose handler does not look at the log. -/
theorem ScriptedRemote.blind {r : ScriptedRemote}
    (h : ∀ q, Attempt.Alike (r.handler q) (r.handler q)) : r.connector.Blind := by
  have hpause (d : Option Duration) :
      Work.Alike Eq (ScriptedRemote.pause d) (ScriptedRemote.pause d) := by
    cases d with
    | none => exact .done rfl
    | some d =>
      refine .act (.of_quiet fun _ => rfl) fun w w' hw => ?_
      have hplace : w.nextPlace = w'.nextPlace := (congrArg World.nextPlace hw :)
      have hnow : w.now = w'.now := (congrArg World.now hw :)
      rw [hplace, hnow]
      exact .wait .rfl_id (.done rfl)
  refine ⟨fun address tls => ?_, fun c q => ?_⟩
  · refine Attempt.Alike.modify_bind (.record rfl) ?_
    refine (Attempt.Alike.lift (hpause r.connectDelay)).bind fun _ => ?_
    cases r.failure with
    | some reason => exact .pure _
    | none =>
      refine Attempt.Alike.look_bind fun w w' hw => ?_
      have hreached : w.reached = w'.reached := by
        rw [← World.reached_quiet, hw, World.reached_quiet]
      rw [hreached]
      exact .pure _
  · refine Attempt.Alike.modify_bind (.record rfl) ?_
    exact (Attempt.Alike.lift (hpause r.sendDelay)).bind fun _ => h q

namespace Client

variable {ρ : Type} [Reply ρ] {c c' : Client} {options options' : List CallOption}
  {names names' : List String}

/-- The chain of a call stands in a list of names. -/
def CallsThrough (c : Client) (options : List CallOption) (names : List String) : Prop :=
  (c.chainFor .standard (c.optionsOf options)).1 = Catalog.standard.chainOf names c.skippers

/-- Two calls, of one client or of two, that differ in the names of their stages at most. -/
structure SameBut (c c' : Client) (options options' : List CallOption) : Prop where
  settings : c'.settings = c.settings
  skippers : c'.skippers = c.skippers
  info : ∃ stages, CallInfo.ofOptions (c'.optionsOf options') =
    { CallInfo.ofOptions (c.optionsOf options) with stages := stages }

theorem SameBut.symm (h : c.SameBut c' options options') : c'.SameBut c options' options := by
  obtain ⟨hsettings, hskippers, stages, hinfo⟩ := h
  refine ⟨hsettings.symm, hskippers.symm, (CallInfo.ofOptions (c.optionsOf options)).stages, ?_⟩
  rw [hinfo]

theorem ofOptions_optionsOf_append (c : Client) (options : List CallOption) (o : CallOption) :
    CallInfo.ofOptions (c.optionsOf (options ++ [o])) =
      (CallInfo.ofOptions (c.options ++ options)).apply o := by
  unfold optionsOf CallOption.combine CallInfo.ofOptions
  split
  next h =>
    rw [List.isEmpty_iff.mp h, List.foldl_append]
    rfl
  next =>
    rw [← List.append_assoc, List.foldl_append]
    rfl

/-- A call with an option that names stages goes through these. -/
theorem callsThrough_stages (c : Client) (options : List CallOption) (names : List String) :
    c.CallsThrough (options ++ [.stages names]) names := by
  unfold CallsThrough chainFor
  rw [ofOptions_optionsOf_append]
  rfl

theorem sameBut_stages (c : Client) (options : List CallOption) (names names' : List String) :
    c.SameBut c (options ++ [.stages names]) (options ++ [.stages names']) where
  settings := rfl
  skippers := rfl
  info := by
    refine ⟨some names', ?_⟩
    rw [ofOptions_optionsOf_append, ofOptions_optionsOf_append]
    rfl

theorem CallsThrough.hasChain (h : c.CallsThrough options names) :
    c.HasChain .standard options (names.filterMap Builtin.ofName?) := by
  unfold HasChain
  rw [h, Catalog.chainOf_standard]

theorem mem_filterMap_ofName? {b : Builtin} {names : List String} :
    b ∈ names.filterMap Builtin.ofName? ↔ b.name ∈ names := by
  rw [List.mem_filterMap]
  constructor
  · rintro ⟨n, hn, hb⟩
    rw [Builtin.ofName?_eq_some_iff.mp hb]
    exact hn
  · intro hn
    exact ⟨b.name, hn, Builtin.ofName?_eq_some_iff.mpr rfl⟩

/-- Finding a chain is seen in the log only. -/
theorem quiet_warned (c : Client) (catalog : Catalog) (options : List CallOption) (w : World) :
    (c.warned catalog options w).quiet = w.quiet := by
  unfold warned
  generalize (c.chainFor catalog (c.optionsOf options)).2 = records
  induction records generalizing w with
  | nil => rfl
  | cons r rest ih =>
    rw [List.foldl_cons, ih, World.quiet_record_logged]

omit [Reply ρ] in
theorem kin_entranceOf (h : c.SameBut c' options options') (ctx : CallContext)
    (method target : String) (body : RequestBody) (reply : Option ρ) (w : World) :
    (c.entranceOf .standard ctx method target body reply options w).Kin
      (c'.entranceOf .standard ctx method target body reply options' w) where
  context := rfl
  invocation := by
    obtain ⟨hsettings, hskippers, stages, hinfo⟩ := h
    refine ⟨⟨c'.optionsOf options', ?_⟩, stages, hinfo⟩
    unfold entranceOf invocationOf
    rw [hsettings]
  world := (quiet_warned c .standard options w).trans (quiet_warned c' .standard options' w).symm

/-- What a call can come to, every call through the same stages can come to as well, alone or among
others. -/
theorem ends_invoke_agree {R : Resumption} (hR : R.Blind) (hsame : c.SameBut c' options options')
    (hnames : c.CallsThrough options names) (hnames' : c'.CallsThrough options' names')
    (hmem : ∀ b : Builtin, b.name ∈ names ↔ b.name ∈ names') (hsteady : Reply.Steady ρ)
    (hconnector : c.settings.connector.Blind)
    (hinfo : (CallInfo.ofOptions (c.optionsOf options)).Blind) {ctx : CallContext}
    {method target : String} {body : RequestBody} {reply : Option ρ} {w v : World}
    {r : Except Panic CallResult × Option ρ}
    (h : Work.Ends R (c.invoke .standard ctx method target body reply options) w r v) :
    ∃ r' v', Work.Ends R (c'.invoke .standard ctx method target body reply options') w r' v' ∧
      Agree reply r r' ∧ v.requests = v'.requests := by
  obtain ⟨o, reply₁⟩ := r
  obtain ⟨i, hends, rfl⟩ := (ends_invoke_iff hnames.hasChain).mp ⟨v, h, rfl⟩
  have hmem' (b : Builtin) : b ∈ names.filterMap Builtin.ofName? ↔
      b ∈ names'.filterMap Builtin.ofName? := by
    rw [mem_filterMap_ofName?, mem_filterMap_ofName?]
    exact hmem b
  have hkin := kin_entranceOf hsame ctx method target body reply w
  obtain ⟨⟨o', i', v₁⟩, hends', hrequests, hagree⟩ :=
    Chain.endsFrom_agree (x := c.entranceOf .standard ctx method target body reply options w) hR
      hsteady hconnector hinfo hkin hmem' hends
  rw [← hsame.skippers] at hends'
  obtain ⟨v', h', hv'⟩ := (ends_invoke_iff hnames'.hasChain).mpr ⟨i', hends', rfl⟩
  refine ⟨_, v', h', ?_, ?_⟩
  · have hgiven : (ReplySlot.ofOption reply).seen? = reply := by
      cases reply <;> rfl
    rw [← hgiven]
    exact hagree
  · rw [← World.requests_quiet v, hrequests, ← hv', World.requests_quiet]

/-- The order of the names in a chain, and how often each is given, do not matter: two calls that differ
in these only both come to an end or neither does, hand over the same requests, and come to results that
agree. -/
theorem invoke_order_and_repetition (hsame : c.SameBut c' options options')
    (hnames : c.CallsThrough options names) (hnames' : c'.CallsThrough options' names')
    (hmem : ∀ b : Builtin, b.name ∈ names ↔ b.name ∈ names') (hsteady : Reply.Steady ρ)
    (hconnector : c.settings.connector.Blind)
    (hinfo : (CallInfo.ofOptions (c.optionsOf options)).Blind) (ctx : CallContext)
    (method target : String) (body : RequestBody) (reply : Option ρ) (w : World) :
    Option.Rel (fun r r' => Agree reply r.1 r'.1 ∧ r.2.requests = r'.2.requests)
      ((c.invoke .standard ctx method target body reply options).run w)
      ((c'.invoke .standard ctx method target body reply options').run w) := by
  have hinfo' : (CallInfo.ofOptions (c'.optionsOf options')).Blind := by
    obtain ⟨stages, h⟩ := hsame.info
    rw [h]
    exact ⟨hinfo.resolver, hinfo.process⟩
  cases h : (c.invoke .standard ctx method target body reply options).run w with
  | some r =>
    obtain ⟨r₁, v⟩ := r
    obtain ⟨r₁', v', h', hagree, hrequests⟩ := ends_invoke_agree Work.alone_blind hsame hnames
      hnames' hmem hsteady hconnector hinfo (Work.run_eq_some_iff.mp h)
    rw [Work.run_eq_some_iff.mpr h']
    exact .some ⟨hagree, hrequests⟩
  | none =>
    cases h' : (c'.invoke .standard ctx method target body reply options').run w with
    | none => exact .none
    | some r' =>
      obtain ⟨r₁', v'⟩ := r'
      obtain ⟨r₁, v, hends, -⟩ := ends_invoke_agree Work.alone_blind hsame.symm hnames' hnames
        (fun b => (hmem b).symm) hsteady (by rw [hsame.settings]; exact hconnector) hinfo'
        (Work.run_eq_some_iff.mp h')
      rw [Work.run_eq_some_iff.mpr hends] at h
      cases h

/-- The verdict and the gate in both orders, one of them twice, before a remote side that answers. -/
theorem invoke_order_and_repetition_swapped :
    Option.Rel (fun r r' => Agree none r.1 r'.1 ∧ r.2.requests = r'.2.requests)
      (((scripted .ok []).invoke .standard (.ofToken ⟨[0]⟩) "GET" "/" .empty (none : Option Json)
        [.stages ["callstatus", "statuscode", "callstatus"]]).run .initial)
      (((scripted .ok []).invoke .standard (.ofToken ⟨[0]⟩) "GET" "/" .empty (none : Option Json)
        [.stages ["statuscode", "callstatus"]]).run .initial) := by
  have hmem (b : Builtin) : b.name ∈ ["callstatus", "statuscode", "callstatus"] ↔
      b.name ∈ ["statuscode", "callstatus"] := by
    cases b <;> decide
  have hblind : (scripted .ok []).settings.connector.Blind := ScriptedRemote.blind fun _ => .pure _
  have hinfo : (CallInfo.ofOptions ((scripted .ok []).optionsOf
      [.stages ["callstatus", "statuscode", "callstatus"]])).Blind :=
    ⟨(fun _ h => nomatch h), (fun _ h => nomatch h)⟩
  exact invoke_order_and_repetition
    (sameBut_stages (scripted .ok []) [] ["callstatus", "statuscode", "callstatus"]
      ["statuscode", "callstatus"])
    (callsThrough_stages _ [] _) (callsThrough_stages _ [] _) hmem
    (Reply.steady_of_body fun _ _ _ => rfl) hblind hinfo _ _ _ _ _ _

end Client

end CallChain
