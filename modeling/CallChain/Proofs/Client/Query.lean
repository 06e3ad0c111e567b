import CallChain.Proofs.Call.Bulk
import CallChain.Proofs.Client.Session

/-!
# Calls whose options come to the same

A call is told apart from another one by what its options come to, unless a stage looks at the options
themselves (`Client.invoke_eq_of_info`).  So a request whose query is given as an object is the request to
which the fields of the object are given one by one.
-/

set_option autoImplicit false

namespace CallChain

namespace Client

variable {ρ : Type} [Reply ρ]

def withOptions (c : Client) (defaults : List CallOption) : Client := { c with options := defaults }

/-- Calls whose options, behind those of the client, come to the same are the same, if no stage of the chain
looks at the options themselves. -/
theorem invoke_eq_of_info {c : Client} {catalog : Catalog} {defaults options options' : List CallOption}
    (hinfo : CallInfo.ofOptions ((c.withOptions defaults).optionsOf options') =
      CallInfo.ofOptions (c.optionsOf options))
    (hstages : ∀ s ∈ (c.chainFor catalog (c.optionsOf options)).1, s.Echoes s)
    (ctx : CallContext) (method target : String) (body : RequestBody) (reply : Option ρ) :
    (c.withOptions defaults).invoke catalog ctx method target body reply options' =
      c.invoke catalog ctx method target body reply options := by
  have hchain : (c.withOptions defaults).chainFor catalog ((c.withOptions defaults).optionsOf options') =
      c.chainFor catalog (c.optionsOf options) := by
    unfold chainFor
    rw [hinfo]
    rfl
  -- The two invocations differ in their options alone, which come to the same.
  have hkin : (c.invocationOf method target body reply options).Kin
      ((c.withOptions defaults).invocationOf method target body reply options') :=
    ⟨⟨_, rfl⟩, _, hinfo⟩
  have hthrough :
      c.through ⟨ctx, method, target, body, reply, options⟩
          (c.chainFor catalog (c.optionsOf options)).1 =
        (c.withOptions defaults).through ⟨ctx, method, target, body, reply, options'⟩
          (c.chainFor catalog (c.optionsOf options)).1 := by
    refine (Chain.concur_run (List.forall₂_same.mpr hstages) ctx _ _ hkin).bind_done_eq ?_
    rintro ⟨o, i⟩ ⟨o', j⟩ ⟨ho, hleft⟩
    obtain ⟨⟨left, rfl⟩, -⟩ := hleft
    exact congrArg (·, i.reply.value?) ho
  have hmake := c.make_eq ⟨ctx, method, target, body, reply, options⟩ catalog
  have hmake' := (c.withOptions defaults).make_eq ⟨ctx, method, target, body, reply, options'⟩ catalog
  dsimp only at hmake hmake'
  rw [hchain, throughWarned, ← hthrough] at hmake'
  exact hmake'.trans hmake.symm

omit [Reply ρ] in
/-- The stages of the library do not look at the options. -/
theorem echoes_of_hasChain {c : Client} {catalog : Catalog} {options : List CallOption}
    {bs : List Builtin} (h : c.HasChain catalog options bs) :
    ∀ s ∈ (c.chainFor catalog (c.optionsOf options)).1, s.Echoes s := by
  rw [h]
  intro s hs
  obtain ⟨b, -, rfl⟩ := List.mem_map.mp hs
  exact b.echoes c.skippers

end Client

namespace Request

def queryValues (r : Request) (fields : List (String × String)) : Request :=
  fields.foldl (fun r f => r.queryValue f.1 f.2) r

theorem queryValues_eq (r : Request) (fields : List (String × String)) :
    r.queryValues fields =
      { r with options := r.options ++ fields.map fun f => .setQueryValue f.1 f.2 } := by
  unfold queryValues
  induction fields generalizing r with
  | nil => simp
  | cons f rest ih =>
    rw [List.foldl_cons, ih]
    simp [queryValue, option]

theorem query_eq {value : Encodable} {fields : List (String × Json)}
    (h : value.toJson = .ok (.object fields)) (r : Request) (codes : CodeRegistry)
    (site : CallSite) :
    r.query codes site value = { r with options := r.options ++ [.mergeQuery (queryOf fields)] } := by
  unfold query
  rw [h]
  rfl

/-- Given as an object or field by field, whatever the order, a query comes to the same. -/
theorem ofOptions_query {value : Encodable} {fields given : List (String × String)}
    (hvalue : value.toJson = .ok (.object (textFields fields))) (hgiven : given.Perm fields)
    (hdistinct : (given.map Prod.fst).Nodup) (hnames : ∀ f ∈ given, f.1 ≠ "") (c : Client) (r : Request)
    (codes : CodeRegistry) (site : CallSite) :
    CallInfo.ofOptions (c.optionsOf (r.queryValues given).options) =
      CallInfo.ofOptions (c.optionsOf (r.query codes site value).options) := by
  have hkept : (given.filter fun f => f.1 ≠ "") = given := by simpa using hnames
  rw [queryValues_eq, query_eq hvalue, Client.optionsOf, Client.optionsOf, CallInfo.ofOptions_combine,
    CallInfo.ofOptions_combine, ← List.append_assoc, ← List.append_assoc, CallInfo.ofOptions_append,
    CallInfo.ofOptions_concat, CallInfo.foldl_setFields, hkept, queryOf_perm hgiven hdistinct]

/-- Given as an object or field by field, a query makes the same request, if no stage looks at the options
themselves. -/
theorem send_query {ρ : Type} [Reply ρ] {value : Encodable} {fields given : List (String × String)}
    (hvalue : value.toJson = .ok (.object (textFields fields))) (hgiven : given.Perm fields)
    (hdistinct : (given.map Prod.fst).Nodup) (hnames : ∀ f ∈ given, f.1 ≠ "") {c : Client} {r : Request}
    {codes : CodeRegistry} {site : CallSite} {catalog : Catalog}
    (hstages : ∀ s ∈ (c.chainFor catalog (c.optionsOf (r.query codes site value).options)).1,
      s.Echoes s)
    (ctx : CallContext) (reply : Option ρ) :
    (r.queryValues given).send c catalog ctx reply =
      (r.query codes site value).send c catalog ctx reply := by
  have hinvoke := Client.invoke_eq_of_info
    (ofOptions_query hvalue hgiven hdistinct hnames c r codes site) hstages ctx r.method r.target
    r.body reply
  rw [queryValues_eq, query_eq hvalue] at hinvoke ⊢
  unfold send
  cases r.failure with
  | some f => rfl
  | none => exact hinvoke

end Request

/-! ## The two forms of an option -/

/-- What an option that takes a whole map has to do with the option for one key. -/
structure CallInfo.Piecemeal (i : CallInfo) : Prop where
  mergeQuery : ∀ q : Query, q.contains "" = false → (∀ key ∈ q.keys, ∃ value, q.getAll key = [value]) →
    i.apply (.mergeQuery q) = (CallOption.setEachQuery q).foldl CallInfo.apply i
  addQuery : ∀ q : Query, q.contains "" = false → (∀ key ∈ q.keys, q.getAll key ≠ []) →
    i.apply (.addQuery q) = (CallOption.addEachQuery q).foldl CallInfo.apply i
  /-- No operation on headers leaves a key in another form than the one it is filed under. -/
  addHeaders : ∀ h : Headers, h.Filed →
    i.apply (.addHeaders h) = (CallOption.addEachHeader h).foldl CallInfo.apply i
  /-- The options for one key pass an empty key over, which the others do not. -/
  setEach : ∀ q : Query, (∀ key ∈ q.keys, ∃ value, q.getAll key = [value]) →
    (CallOption.setEachQuery q).foldl CallInfo.apply i = i.apply (.mergeQuery (q.erase ""))
  addEach : ∀ q : Query, (∀ key ∈ q.keys, q.getAll key ≠ []) →
    (CallOption.addEachQuery q).foldl CallInfo.apply i = i.apply (.addQuery (q.erase ""))

theorem CallInfo.piecemeal (i : CallInfo) : i.Piecemeal where
  mergeQuery q hempty hq := by
    rw [foldl_setEachQuery i hq, ValueMap.erase_of_absent hempty]
  addQuery q hempty hq := by
    rw [foldl_addEachQuery i hq, ValueMap.erase_of_absent hempty]
  addHeaders _ hfiled := (foldl_addEachHeader i hfiled).symm
  setEach _ hq := foldl_setEachQuery i hq
  addEach _ hq := foldl_addEachQuery i hq

namespace Request

/-- What a whole map does, the options for one key do in turn.  So a query given as an object of texts comes
to what its fields come to, given one by one in any order, and the request that is sent is the same. -/
theorem piecemeal_and_send_query :
    (∀ i : CallInfo, i.Piecemeal) ∧
      ∀ (value : Encodable) (fields given : List (String × String)),
        value.toJson = .ok (.object (textFields fields)) → given.Perm fields →
        (given.map Prod.fst).Nodup → (∀ f ∈ given, f.1 ≠ "") →
          ∀ (r : Request) (codes : CodeRegistry) (site : CallSite) (c : Client),
            CallInfo.ofOptions (c.optionsOf (r.queryValues given).options) =
                CallInfo.ofOptions (c.optionsOf (r.query codes site value).options) ∧
              ∀ {ρ : Type} [Reply ρ] (catalog : Catalog) (ctx : CallContext) (reply : Option ρ),
                (∀ s ∈ (c.chainFor catalog (c.optionsOf (r.query codes site value).options)).1,
                  s.Echoes s) →
                  (r.queryValues given).send c catalog ctx reply =
                    (r.query codes site value).send c catalog ctx reply :=
  ⟨CallInfo.piecemeal, fun _ _ _ hvalue hgiven hdistinct hnames r codes site c =>
    ⟨ofOptions_query hvalue hgiven hdistinct hnames c r codes site, fun _ ctx reply hstages =>
      send_query hvalue hgiven hdistinct hnames hstages ctx reply⟩⟩

/-- A page and an order are asked for in either form, behind a query that the client has already. -/
theorem piecemeal_and_send_query_page :
    CallInfo.empty.apply (.mergeQuery (.ofPairs [("sort", "up"), ("page", "2")])) =
        (CallOption.setEachQuery (.ofPairs [("sort", "up"), ("page", "2")])).foldl CallInfo.apply .empty ∧
      ∀ (ctx : CallContext) (reply : Option Json),
        ((Request.new "GET" "/v1/orders").queryValues [("sort", "up"), ("page", "2")]).send
            (Client.scripted .ok [.accessLog]) .standard ctx reply =
          ((Request.new "GET" "/v1/orders").query (.new ⟨"localhost", 1, "orders", .oneFile "library"⟩)
            ⟨"src/orders.rs", 8, "orders::page"⟩
            (.json (.object (textFields [("page", "2"), ("sort", "up")])))).send
            (Client.scripted .ok [.accessLog]) .standard ctx reply := by
  obtain ⟨hpiecemeal, hsend⟩ := piecemeal_and_send_query
  constructor
  · refine (hpiecemeal .empty).mergeQuery _ (by decide) fun key hkey => ?_
    have hkeys : (ValueMap.ofPairs [("sort", "up"), ("page", "2")] : Query).keys = ["page", "sort"] := by
      decide
    rw [hkeys] at hkey
    obtain rfl | rfl : key = "page" ∨ key = "sort" := by simpa using hkey
    · exact ⟨"2", by decide⟩
    · exact ⟨"up", by decide⟩
  · intro ctx reply
    have hnamed := hsend (.json (.object (textFields [("page", "2"), ("sort", "up")])))
      [("page", "2"), ("sort", "up")] [("sort", "up"), ("page", "2")] rfl (List.Perm.swap _ _ _)
      (by decide) (by decide) (.new "GET" "/v1/orders")
      (.new ⟨"localhost", 1, "orders", .oneFile "library"⟩)
      ⟨"src/orders.rs", 8, "orders::page"⟩ (.scripted .ok [.accessLog])
    exact hnamed.2 .standard ctx reply
      (Client.echoes_of_hasChain (Client.hasChain_scripted .ok [.accessLog] rfl))

/-- A map that is merged brings its empty key along, which cannot be set alone. -/
theorem empty_key_is_merged_not_set :
    ¬∀ (i : CallInfo) (q : Query), (∀ key ∈ q.keys, ∃ value, q.getAll key = [value]) →
      i.apply (.mergeQuery q) = (CallOption.setEachQuery q).foldl CallInfo.apply i := by
  intro h
  have hkeys : (ValueMap.ofPairs [("", "x")] : Query).keys = [""] := by decide
  have hsame := h .empty (.ofPairs [("", "x")]) fun key hkey => by
    rw [hkeys, List.mem_singleton] at hkey
    exact ⟨"x", by rw [hkey]; decide⟩
  have hthere := congrArg (fun i => i.query.contains "") hsame
  exact absurd hthere (by decide)

end Request

end CallChain
