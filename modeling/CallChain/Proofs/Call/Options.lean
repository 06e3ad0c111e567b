import CallChain.Call.Options
import CallChain.Proofs.Data.ValueChange
import CallChain.Proofs.Data.ValueMap

/-!
# What a list of options means

An option does to the values of one header or query key one of two things: it replaces them or it adds to
them (`ValueChange`), where one that has nothing to do with the key adds nothing.  The changes of a list
leave the values of the last replacement and, behind them, what was added since (`ValueChange.Leaves`).

`getAll_headers_apply` and `getAll_query_apply` say of one option that it makes its change and no other; a
whole list makes its changes in a row from there, by the one induction `values_ofOptions`.  The options that
hold a single thing need no such account: the last of them counts (`last_ofOptions`).
-/

set_option autoImplicit false

namespace CallChain

/-! ## What one option is about -/

namespace CallOption

/-- What an option does to the values of a header. -/
def headerChange (key : String) : CallOption → ValueChange
  | .setHeaders h => .replace (h.getAll key)
  | .setHeader k values => if Text.sameIgnoringCase k key then .replace values else .keep
  | .addHeaders h => .add (h.getAll key)
  | .addHeader k values => if Text.sameIgnoringCase k key then .add values else .keep
  | _ => .keep

/-- What an option does to the values of a query parameter. -/
def queryChange (key : String) : CallOption → ValueChange
  | .setQuery q => .replace (q.getAll key)
  | .mergeQuery q => if q.contains key then .replace (q.getAll key) else .keep
  | .setQueryValue k value => if k ≠ "" ∧ k = key then .replace [value] else .keep
  | .addQuery q => .add (q.getAll key)
  | .addQueryValue k value => if k ≠ "" ∧ k = key then .add [value] else .keep
  | _ => .keep

def timeout? : CallOption → Option Duration
  | .timeout d => some d
  | _ => none

def url? : CallOption → Option (Action String)
  | .url resolver => some resolver
  | _ => none

def endpoint? : CallOption → Option String
  | .endpoint address => some address
  | _ => none

def process? : CallOption → Option (TransportRequest → Action TransportRequest)
  | .processRequest process => some process
  | _ => none

def stages? : CallOption → Option (List String)
  | .stages names => some names
  | _ => none

def data? : CallOption → Option PassedData
  | .data d => some d
  | _ => none

end CallOption

/-- What a call with a list of options is made with, told key by key and field by field. -/
structure CallInfo.Means (i : CallInfo) (options : List CallOption) : Prop where
  headers : ∀ key, ValueChange.Leaves (options.map (CallOption.headerChange key)) (i.headers.getAll key)
  query : ∀ key, ValueChange.Leaves (options.map (CallOption.queryChange key)) (i.query.getAll key)
  timeout : i.timeout = (options.filterMap CallOption.timeout?).getLast?
  url : i.url = (options.filterMap CallOption.url?).getLast?
  endpoint : i.endpoint = (options.filterMap CallOption.endpoint?).getLast?
  process : i.process = (options.filterMap CallOption.process?).getLast?
  stages : i.stages = (options.filterMap CallOption.stages?).getLast?
  data : i.data = (options.filterMap CallOption.data?).getLast?
  responseNotParse : i.responseNotParse = true ↔ CallOption.responseNotParse ∈ options

namespace CallInfo

open CallOption

theorem apply_setQueryValue (i : CallInfo) (k value : String) :
    i.apply (.setQueryValue k value) =
      { i with query := if k = "" then i.query else i.query.insert k value } := by
  simp only [apply]
  split <;> rfl

theorem apply_addQueryValue (i : CallInfo) (k value : String) :
    i.apply (.addQueryValue k value) =
      { i with query := if k = "" then i.query else i.query.add k value } := by
  simp only [apply]
  split <;> rfl

theorem getAll_headers_apply (i : CallInfo) (o : CallOption) (key : String) :
    (i.apply o).headers.getAll key = (o.headerChange key).apply (i.headers.getAll key) := by
  cases o with
  | setHeaders h => rfl
  | setHeader k values =>
    by_cases hk : Text.lower k = Text.lower key
    · simp [apply, headerChange, ValueMap.getAll_set, KeyCase.file, Text.sameIgnoringCase, hk]
    · simp [apply, headerChange, ValueMap.getAll_set, KeyCase.file, Text.sameIgnoringCase, hk]
  | addHeaders h => exact ValueMap.getAll_extend i.headers h key
  | addHeader k values =>
    by_cases hk : Text.lower k = Text.lower key
    · simp [apply, headerChange, ValueMap.getAll_append, KeyCase.file, Text.sameIgnoringCase, hk]
    · simp [apply, headerChange, ValueMap.getAll_append, KeyCase.file, Text.sameIgnoringCase, hk]
  | setQueryValue k value =>
    rw [apply_setQueryValue]
    simp [headerChange]
  | addQueryValue k value =>
    rw [apply_addQueryValue]
    simp [headerChange]
  | _ => simp [apply, headerChange]

theorem getAll_query_apply (i : CallInfo) (o : CallOption) (key : String) :
    (i.apply o).query.getAll key = (o.queryChange key).apply (i.query.getAll key) := by
  cases o with
  | setQuery q => rfl
  | mergeQuery q =>
    by_cases hq : q.contains key = true
    · simp [apply, queryChange, ValueMap.getAll_merge, hq]
    · simp [apply, queryChange, ValueMap.getAll_merge, hq]
  | setQueryValue k value =>
    by_cases hk : k = ""
    · simp [apply, queryChange, hk]
    · by_cases hkey : k = key
      · subst hkey
        simp [apply, queryChange, ValueMap.insert, ValueMap.getAll_set, KeyCase.file, hk]
      · simp [apply, queryChange, ValueMap.insert, ValueMap.getAll_set, KeyCase.file, hk, hkey]
  | addQuery q => exact ValueMap.getAll_extend i.query q key
  | addQueryValue k value =>
    by_cases hk : k = ""
    · simp [apply, queryChange, hk]
    · by_cases hkey : k = key
      · subst hkey
        simp [apply, queryChange, ValueMap.add, ValueMap.getAll_append, KeyCase.file, hk]
      · simp [apply, queryChange, ValueMap.add, ValueMap.getAll_append, KeyCase.file, hk, hkey]
  | _ => simp [apply, queryChange]

/-- What one option does to the fields that hold a single thing. -/
structure Fills (i : CallInfo) (o : CallOption) (i' : CallInfo) : Prop where
  timeout : i'.timeout = o.timeout?.or i.timeout
  url : i'.url = o.url?.or i.url
  endpoint : i'.endpoint = o.endpoint?.or i.endpoint
  process : i'.process = o.process?.or i.process
  stages : i'.stages = o.stages?.or i.stages
  data : i'.data = o.data?.or i.data
  responseNotParse : i'.responseNotParse = true ↔
    i.responseNotParse = true ∨ o = CallOption.responseNotParse

theorem fills_apply (i : CallInfo) (o : CallOption) : Fills i o (i.apply o) := by
  cases o with
  | setQueryValue k value =>
    rw [apply_setQueryValue]
    constructor <;> simp [timeout?, url?, endpoint?, process?, stages?, data?]
  | addQueryValue k value =>
    rw [apply_addQueryValue]
    constructor <;> simp [timeout?, url?, endpoint?, process?, stages?, data?]
  | _ => constructor <;> simp [apply, timeout?, url?, endpoint?, process?, stages?, data?]

/-! ## What a list of options is about -/

/-- More options go on from what those before them come to. -/
theorem ofOptions_append (options more : List CallOption) :
    ofOptions (options ++ more) = more.foldl apply (ofOptions options) := List.foldl_append

theorem ofOptions_concat (options : List CallOption) (o : CallOption) :
    ofOptions (options ++ [o]) = (ofOptions options).apply o := ofOptions_append options [o]

/-- Values to which every option makes its change are those that the changes of the list come to. -/
theorem values_ofOptions (values : CallInfo → List String) {change : CallOption → ValueChange}
    (hempty : values empty = [])
    (hstep : ∀ i o, values (i.apply o) = (change o).apply (values i)) (options : List CallOption) :
    values (ofOptions options) = ValueChange.run (options.map change) := by
  induction options using List.reverseRecOn with
  | nil => exact hempty
  | append_singleton options o ih =>
    rw [ofOptions_concat, hstep, ih, List.map_append, ValueChange.run_append]
    rfl

section

variable (values : CallInfo → List String) {change : CallOption → ValueChange}
  (h : ∀ options, values (ofOptions options) = ValueChange.run (options.map change))

include h

/-- An option that replaces wins over all defaults. -/
theorem values_append_of_replace (defaults : List CallOption) {call : List CallOption}
    (hreplace : ∃ o ∈ call, ∃ replacement, change o = .replace replacement) :
    values (ofOptions (defaults ++ call)) = values (ofOptions call) := by
  obtain ⟨o, ho, replacement, hchange⟩ := hreplace
  have hmem : .replace replacement ∈ call.map change := List.mem_map.mpr ⟨o, ho, hchange⟩
  rw [h, h, List.map_append]
  exact ValueChange.run_append_of_replace (defaults.map change) hmem

theorem values_filter_keep (options : List CallOption) :
    values (ofOptions options) = values (ofOptions (options.filter fun o => change o ≠ .keep)) := by
  rw [h, h]
  exact ValueChange.run_map_filter change options

end

/-- A field that an option either fills anew or leaves is as the last option left it. -/
theorem last_ofOptions {α : Type} {field : CallInfo → Option α} {given : CallOption → Option α}
    (hempty : field empty = none) (hstep : ∀ i o, field (i.apply o) = (given o).or (field i))
    (options : List CallOption) : field (ofOptions options) = (options.filterMap given).getLast? := by
  induction options using List.reverseRecOn with
  | nil => exact hempty
  | append_singleton options o ih =>
    rw [ofOptions_concat, hstep, ih, List.filterMap_append]
    cases h : given o with
    | none => simp [h]
    | some x => simp [h]

theorem responseNotParse_ofOptions (options : List CallOption) :
    (ofOptions options).responseNotParse = true ↔ CallOption.responseNotParse ∈ options := by
  induction options using List.reverseRecOn with
  | nil => simp [ofOptions, empty]
  | append_singleton options o ih =>
    rw [ofOptions_concat, (fills_apply _ o).responseNotParse, ih, List.mem_append, List.mem_singleton,
      eq_comm]

theorem headers_ofOptions (options : List CallOption) (key : String) :
    (ofOptions options).headers.getAll key = ValueChange.run (options.map (headerChange key)) :=
  values_ofOptions (fun i => i.headers.getAll key) (ValueMap.getAll_empty key)
    (fun i o => getAll_headers_apply i o key) options

theorem query_ofOptions (options : List CallOption) (key : String) :
    (ofOptions options).query.getAll key = ValueChange.run (options.map (queryChange key)) :=
  values_ofOptions (fun i => i.query.getAll key) (ValueMap.getAll_empty key)
    (fun i o => getAll_query_apply i o key) options

theorem means_ofOptions (options : List CallOption) : (ofOptions options).Means options where
  headers key := ValueChange.leaves_iff.mpr (headers_ofOptions options key).symm
  query key := ValueChange.leaves_iff.mpr (query_ofOptions options key).symm
  timeout := last_ofOptions rfl (fun i o => (fills_apply i o).timeout) options
  url := last_ofOptions rfl (fun i o => (fills_apply i o).url) options
  endpoint := last_ofOptions rfl (fun i o => (fills_apply i o).endpoint) options
  process := last_ofOptions rfl (fun i o => (fills_apply i o).process) options
  stages := last_ofOptions rfl (fun i o => (fills_apply i o).stages) options
  data := last_ofOptions rfl (fun i o => (fills_apply i o).data) options
  responseNotParse := responseNotParse_ofOptions options

theorem ofOptions_combine (defaults call : List CallOption) :
    ofOptions (combine defaults call) = ofOptions (defaults ++ call) := by
  unfold combine
  cases defaults with
  | nil => rfl
  | cons o rest => rfl

/-- A call is made with what its options mean behind those of the client.  What an option of the call
replaces is as the options of the call alone have it, and options that have nothing to do with a key may be
left out as far as that key goes. -/
theorem means_combine (defaults call : List CallOption) :
    (ofOptions (combine defaults call)).Means (defaults ++ call) ∧
      (∀ key, (∃ o ∈ call, ∃ values, o.headerChange key = .replace values) →
        (ofOptions (combine defaults call)).headers.getAll key =
          (ofOptions call).headers.getAll key) ∧
      (∀ key, (∃ o ∈ call, ∃ values, o.queryChange key = .replace values) →
        (ofOptions (combine defaults call)).query.getAll key =
          (ofOptions call).query.getAll key) ∧
      (∀ key, (ofOptions (combine defaults call)).headers.getAll key =
        (ofOptions ((defaults ++ call).filter fun o => o.headerChange key ≠ .keep)).headers.getAll key) ∧
      ∀ key, (ofOptions (combine defaults call)).query.getAll key =
        (ofOptions ((defaults ++ call).filter fun o => o.queryChange key ≠ .keep)).query.getAll key := by
  rw [ofOptions_combine]
  refine ⟨means_ofOptions _, ?_, ?_, ?_, ?_⟩
  · intro key
    exact values_append_of_replace (fun i => i.headers.getAll key)
      (fun options => headers_ofOptions options key) defaults
  · intro key
    exact values_append_of_replace (fun i => i.query.getAll key)
      (fun options => query_ofOptions options key) defaults
  · intro key
    exact values_filter_keep (fun i => i.headers.getAll key)
      (fun options => headers_ofOptions options key) (defaults ++ call)
  · intro key
    exact values_filter_keep (fun i => i.query.getAll key)
      (fun options => query_ofOptions options key) (defaults ++ call)

/-- A header that the call sets, however it is spelled, is no longer that of the client; one that both add
to holds the values of both. -/
theorem means_combine_tenant :
    (ofOptions (combine [setHeader "X-Tenant" ["acme"], addHeader "Accept" ["text/html"]]
        [addHeader "accept" ["*/*"], setHeader "x-tenant" ["globex"]])).headers.getAll "X-TENANT" =
        ["globex"] ∧
      (ofOptions (combine [setHeader "X-Tenant" ["acme"], addHeader "Accept" ["text/html"]]
        [addHeader "accept" ["*/*"], setHeader "x-tenant" ["globex"]])).headers.getAll "accept" =
        ["text/html", "*/*"] := by
  obtain ⟨hmeans, hwins, -⟩ :=
    means_combine [setHeader "X-Tenant" ["acme"], addHeader "Accept" ["text/html"]]
      [addHeader "accept" ["*/*"], setHeader "x-tenant" ["globex"]]
  constructor
  · rw [hwins "X-TENANT" ⟨setHeader "x-tenant" ["globex"], by simp, ["globex"], by decide⟩]
    decide
  · rw [← ValueChange.leaves_iff.mp (hmeans.headers "accept")]
    decide

end CallInfo

end CallChain
