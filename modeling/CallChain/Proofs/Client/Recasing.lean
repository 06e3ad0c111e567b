import CallChain.Proofs.Client.Query
import CallChain.Proofs.Data.MapPool

/-!
# Header keys in other spellings

What a call does does not tell how the keys of headers were spelled, in capitals or small letters.  A map of
headers does not show how its keys were given (`MapPool.told`), so the options of a call come to the same
(`CallInfo.ofOptions_recased`), and with them its request: its content type is the one it is given, however
that is spelled, or else the one by default.
-/

set_option autoImplicit false

namespace CallChain

open List (Forall₂)

/-! ## Options -/

/-- Headers are filed alike under keys that differ in the case of letters, and under no others. -/
theorem KeyCase.file_folded_iff {key key' : String} :
    KeyCase.folded.file key = KeyCase.folded.file key' ↔ Text.sameIgnoringCase key key' = true :=
  beq_iff_eq.symm

/-- The headers that a program makes have no capital in a key. -/
theorem MapPool.not_capital_of_mem_keys {steps : List MapStep} {n : Nat} {key : String}
    (h : key ∈ (after .folded steps n).keys) : ∀ ch ∈ key.toList, ¬(0x41 ≤ ch.toNat ∧ ch.toNat ≤ 0x5A) :=
  Text.not_capital_of_lower ((told .folded steps).filed n key h)

/-- Two programs that differ in the spelling of the keys they name at most. -/
def MapStep.Recased (steps steps' : List MapStep) : Prop :=
  steps'.map (filed .folded) = steps.map (filed .folded)

/-- Two options that differ in the spelling of header keys at most.  Whole maps of headers are made by
programs that differ in no more. -/
inductive CallOption.Recased : CallOption → CallOption → Prop where
  | same (o : CallOption) : Recased o o
  | setHeader {key key' : String} (values : List String) (h : Text.sameIgnoringCase key key' = true) :
      Recased (.setHeader key values) (.setHeader key' values)
  | addHeader {key key' : String} (values : List String) (h : Text.sameIgnoringCase key key' = true) :
      Recased (.addHeader key values) (.addHeader key' values)
  | setHeaders {steps steps' : List MapStep} (n : Nat) (h : MapStep.Recased steps steps') :
      Recased (.setHeaders (MapPool.after .folded steps n)) (.setHeaders (MapPool.after .folded steps' n))
  | addHeaders {steps steps' : List MapStep} (n : Nat) (h : MapStep.Recased steps steps') :
      Recased (.addHeaders (MapPool.after .folded steps n)) (.addHeaders (MapPool.after .folded steps' n))

namespace CallInfo

theorem apply_recased {o o' : CallOption} (h : o.Recased o') (i : CallInfo) : i.apply o' = i.apply o := by
  cases h with
  | same => rfl
  | @setHeader key key' values hkey =>
    have hset : i.headers.set key' values = i.headers.set key values := by
      rw [← ValueMap.set_file, ← KeyCase.file_folded_iff.mpr hkey, ValueMap.set_file]
    exact congrArg (fun headers => { i with headers }) hset
  | @addHeader key key' values hkey =>
    have happend : i.headers.append key' values = i.headers.append key values := by
      rw [← ValueMap.append_file, ← KeyCase.file_folded_iff.mpr hkey, ValueMap.append_file]
    exact congrArg (fun headers => { i with headers }) happend
  -- Whole maps made by programs of other spellings are the same maps.
  | @setHeaders steps _ n hsteps => rw [((MapPool.told .folded steps).recased _ hsteps).1]
  | @addHeaders steps _ n hsteps => rw [((MapPool.told .folded steps).recased _ hsteps).1]

theorem ofOptions_recased {options options' : List CallOption}
    (h : Forall₂ CallOption.Recased options options') : ofOptions options' = ofOptions options := by
  unfold ofOptions
  generalize empty = i
  induction h generalizing i with
  | nil => rfl
  | cons ho _ ih =>
    rw [List.foldl_cons, List.foldl_cons, apply_recased ho]
    exact ih _

end CallInfo

/-! ## Calls -/

/-- A body is sent with the content type it is given, under whatever spelling, or else as JSON. -/
theorem Exchange.getAll_headersFor {key : String} (h : Text.sameIgnoringCase key "content-type" = true)
    (headers : Headers) (body : Bytes) :
    (headersFor headers (some body)).getAll key =
      if headers.contains key then headers.getAll key else ["application/json"] := by
  have hfile : KeyCase.folded.file key = KeyCase.folded.file "content-type" :=
    KeyCase.file_folded_iff.mpr h
  rw [← ValueMap.contains_file, hfile, ValueMap.contains_file, headersFor, Option.isSome_some, Bool.true_and]
  cases headers.contains "content-type" with
  | true => rfl
  | false =>
    show (headers.set "content-type" ["application/json"]).getAll key = _
    rw [ValueMap.getAll_set, if_pos hfile.symm]
    rfl

namespace Client

theorem ofOptions_optionsOf_recased {c : Client} {defaults options options' : List CallOption}
    (hdefaults : Forall₂ CallOption.Recased c.options defaults)
    (hoptions : Forall₂ CallOption.Recased options options') :
    CallInfo.ofOptions ((c.withOptions defaults).optionsOf options') =
      CallInfo.ofOptions (c.optionsOf options) := by
  rw [optionsOf, optionsOf, CallInfo.ofOptions_combine, CallInfo.ofOptions_combine]
  exact CallInfo.ofOptions_recased (List.rel_append hdefaults hoptions)

/-- What the spelling of header keys comes to. -/
structure CaseBlind : Prop where
  /-- Whatever a program does to its maps of headers, how it spells keys changes nothing. -/
  headers : ∀ steps, MapPool.Told .folded steps
  /-- No key of a map of headers has a capital. -/
  small : ∀ steps n, ∀ key ∈ (MapPool.after .folded steps n).keys,
    ∀ ch ∈ key.toList, ¬(0x41 ≤ ch.toNat ∧ ch.toNat ≤ 0x5A)
  /-- Keys of headers are the same exactly if they differ in the case of letters at most. -/
  folded : ∀ key key', KeyCase.folded.file key = KeyCase.folded.file key' ↔
    Text.sameIgnoringCase key key' = true
  query : ∀ steps, MapPool.Told .exact steps
  /-- Keys of a query stand as they are given. -/
  verbatim : ∀ key, KeyCase.exact.file key = key
  /-- Options come to the same in other spellings, behind defaults in other spellings. -/
  info : ∀ (c : Client) (defaults options options' : List CallOption),
    Forall₂ CallOption.Recased c.options defaults → Forall₂ CallOption.Recased options options' →
    CallInfo.ofOptions ((c.withOptions defaults).optionsOf options') =
      CallInfo.ofOptions (c.optionsOf options)
  /-- A content type is put in exactly if there is none, however it would be spelled. -/
  contentType : ∀ key, Text.sameIgnoringCase key "content-type" = true →
    ∀ (headers : Headers) (body : Bytes), (Exchange.headersFor headers (some body)).getAll key =
      if headers.contains key then headers.getAll key else ["application/json"]
  /-- The request is drawn up the same, with the same headers. -/
  draft : ∀ {ρ : Type} (i : Invocation ρ) (options : List CallOption),
    Forall₂ CallOption.Recased i.options options → ∀ url limit,
      Exchange.draftOf { i with options } url limit = Exchange.draftOf i url limit
  /-- The exchange takes the same steps, one of which hands the request to the connection. -/
  exchange : ∀ {ρ : Type} [Reply ρ] (i : Invocation ρ) (options : List CallOption),
    Forall₂ CallOption.Recased i.options options → ∀ ctx,
      Work.Matches (fun r r' => r.1 = r'.1 ∧ r.2.Kin r'.2) ((Exchange.run ctx).run.run i)
        ((Exchange.run ctx).run.run { i with options })
  /-- So does the whole call, if no stage of its chain looks at the options themselves. -/
  call : ∀ {ρ : Type} [Reply ρ] (c : Client) (catalog : Catalog)
    (defaults options options' : List CallOption),
    Forall₂ CallOption.Recased c.options defaults → Forall₂ CallOption.Recased options options' →
    (∀ s ∈ (c.chainFor catalog (c.optionsOf options)).1, s.Echoes s) →
    ∀ (ctx : CallContext) (method target : String) (body : RequestBody) (reply : Option ρ),
      (c.withOptions defaults).invoke catalog ctx method target body reply options' =
        c.invoke catalog ctx method target body reply options
  /-- The stages of the library do not look at the options. -/
  library : ∀ (b : Builtin) (skippers : List Skipper), (b.stage skippers).Echoes (b.stage skippers)

theorem caseBlind : CaseBlind where
  headers := MapPool.told .folded
  small _ _ _ h := MapPool.not_capital_of_mem_keys h
  folded _ _ := KeyCase.file_folded_iff
  query := MapPool.told .exact
  verbatim _ := rfl
  info _ _ _ _ hdefaults hoptions := ofOptions_optionsOf_recased hdefaults hoptions
  contentType _ h := Exchange.getAll_headersFor h
  draft i options h url limit := by
    have hinfo : ({ i with options } : Invocation _).info = i.info := CallInfo.ofOptions_recased h
    rw [Exchange.draftOf, hinfo, Exchange.draftOf]
  exchange i options h ctx :=
    Exchange.concur_run i { i with options } ⟨⟨options, rfl⟩, i.info.stages, CallInfo.ofOptions_recased h⟩
  call _ _ _ _ _ hdefaults hoptions hstages ctx method target body reply :=
    invoke_eq_of_info (ofOptions_optionsOf_recased hdefaults hoptions) hstages ctx method target body reply
  library := Builtin.echoes

/-- A client that shouts its tenant and a call that shouts its content type make the request of those that do
not, under keys in small letters. -/
theorem caseBlind_tenant :
    (∀ (ctx : CallContext) (reply : Option Json),
      ((scripted .ok [.accessLog]).withOptions [.setHeader "X-TENANT" ["acme"]]).invoke .standard ctx "POST"
          "/v1/orders" (.json .null) reply [.addHeader "CONTENT-TYPE" ["text/plain"]] =
        ((scripted .ok [.accessLog]).withOptions [.setHeader "x-tenant" ["acme"]]).invoke .standard ctx "POST"
          "/v1/orders" (.json .null) reply [.addHeader "Content-Type" ["text/plain"]]) ∧
      (Exchange.headersFor (CallInfo.ofOptions [.setHeader "X-TENANT" ["acme"],
          .addHeader "CONTENT-TYPE" ["text/plain"]]).headers (RequestBody.json .null).bytes?).entries.entries =
        [("content-type", ["text/plain"]), ("x-tenant", ["acme"])] := by
  refine ⟨fun ctx reply => ?_, by decide⟩
  have hchain : ((scripted .ok [.accessLog]).withOptions [.setHeader "x-tenant" ["acme"]]).HasChain .standard
      [.addHeader "Content-Type" ["text/plain"]] [.accessLog] := Catalog.chainOf_names [.accessLog] []
  exact caseBlind.call ((scripted .ok [.accessLog]).withOptions [.setHeader "x-tenant" ["acme"]]) .standard
    [.setHeader "X-TENANT" ["acme"]] _ _ (.cons (.setHeader _ (by decide)) .nil)
    (.cons (.addHeader _ (by decide)) .nil) (echoes_of_hasChain hchain) ctx "POST" "/v1/orders" _ reply

end Client

end CallChain
