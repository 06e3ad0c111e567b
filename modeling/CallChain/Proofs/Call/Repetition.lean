import CallChain.Proofs.Call.Options

/-!
# Option lists made twice

What an option does to an entry of the headers or of the query is one of two things: it says what stands
there from now on, or what is put behind (`held?_headers_apply`, `held?_query_apply`).  Where a list of
options puts nothing behind, an entry is as the last option that speaks of it has it, and the second round
of the list has the same last one.  Where it only puts behind, the second round puts behind the first what
the first put behind nothing.
-/

set_option autoImplicit false

namespace CallChain

open ValueMap (follow)

namespace ValueMap

variable {c : KeyCase}

/-- The map in which every key holds its values and then the same values again. -/
def doubled (m : ValueMap c) : ValueMap c := ⟨m.entries.mapValues fun values => values ++ values⟩

theorem held?_doubled (m : ValueMap c) (filed : String) :
    m.doubled.held? filed = follow (m.held? filed) (m.held? filed) := by
  have hmap : m.doubled.held? filed = (m.held? filed).map fun values => values ++ values :=
    SortedMap.lookupIn_map (fun values => values ++ values) filed m.entries.entries
  rw [hmap]
  cases m.held? filed <;> rfl

theorem getAll_doubled (m : ValueMap c) (key : String) :
    m.doubled.getAll key = m.getAll key ++ m.getAll key := by
  rw [getAll_eq_held?, held?_doubled, getD_follow]
  rfl

theorem keys_doubled (m : ValueMap c) : m.doubled.keys = m.keys :=
  SortedMap.map_fst_map (fun values => values ++ values) m.entries.entries

end ValueMap

namespace CallOption

/-- Whether an option adds to the values of keys. -/
def adds : CallOption → Bool
  | .addHeaders _ | .addHeader _ _ | .addQuery _ | .addQueryValue _ _ => true
  | _ => false

/-- What stands under a filed header key after an option that settles it. -/
def headerGiven? (filed : String) : CallOption → Option (Option (List String))
  | .setHeaders h => some (h.held? filed)
  | .setHeader key values => if filed = Text.lower key then some (some values) else none
  | _ => none

/-- What an option puts behind the values of a filed header key. -/
def headerGain? (filed : String) : CallOption → Option (List String)
  | .addHeaders h => h.held? filed
  | .addHeader key values => if filed = Text.lower key then some values else none
  | _ => none

/-- What stands under a query key after an option that settles it. -/
def queryGiven? (filed : String) : CallOption → Option (Option (List String))
  | .setQuery q => some (q.held? filed)
  | .mergeQuery q => (q.held? filed).map some
  | .setQueryValue key value => if key ≠ "" ∧ filed = key then some (some [value]) else none
  | _ => none

/-- What an option puts behind the values of a query key. -/
def queryGain? (filed : String) : CallOption → Option (List String)
  | .addQuery q => q.held? filed
  | .addQueryValue key value => if key ≠ "" ∧ filed = key then some [value] else none
  | _ => none

variable {o : CallOption}

theorem gains_nothing_of_sets (h : o.adds = false) (filed : String) :
    o.headerGain? filed = none ∧ o.queryGain? filed = none := by
  cases o <;> simp_all [adds, headerGain?, queryGain?]

/-- An option that adds settles nothing, neither an entry nor a field of its own. -/
structure SettlesNothing (o : CallOption) : Prop where
  header : ∀ filed, o.headerGiven? filed = none
  query : ∀ filed, o.queryGiven? filed = none
  timeout : o.timeout? = none
  url : o.url? = none
  endpoint : o.endpoint? = none
  process : o.process? = none
  stages : o.stages? = none
  data : o.data? = none
  responseNotParse : o ≠ .responseNotParse

theorem settlesNothing_of_adds (h : o.adds = true) : o.SettlesNothing := by
  cases o <;> simp [adds] at h <;> constructor <;>
    simp [headerGiven?, queryGiven?, timeout?, url?, endpoint?, process?, stages?, data?]

end CallOption

attribute [ext] CallInfo

namespace CallInfo

open CallOption

/-! ## One option -/

theorem held?_headers_apply (i : CallInfo) (o : CallOption) (filed : String) :
    (i.apply o).headers.held? filed =
      follow ((o.headerGiven? filed).getD (i.headers.held? filed)) (o.headerGain? filed) := by
  cases o with
  | setHeader key values =>
    have hset : (i.apply (.setHeader key values)).headers.held? filed =
        if filed = Text.lower key then some values else i.headers.held? filed :=
      ValueMap.held?_set i.headers key filed values
    rw [hset]
    by_cases h : filed = Text.lower key <;> simp [headerGiven?, headerGain?, h]
  | addHeaders h => exact ValueMap.held?_extend i.headers h filed
  | addHeader key values => exact ValueMap.held?_append i.headers key filed values
  | setQueryValue key value =>
    rw [apply_setQueryValue]
    simp [headerGiven?, headerGain?]
  | addQueryValue key value =>
    rw [apply_addQueryValue]
    simp [headerGiven?, headerGain?]
  | _ => simp [apply, headerGiven?, headerGain?]

theorem held?_query_apply (i : CallInfo) (o : CallOption) (filed : String) :
    (i.apply o).query.held? filed =
      follow ((o.queryGiven? filed).getD (i.query.held? filed)) (o.queryGain? filed) := by
  cases o with
  | mergeQuery q =>
    have hmerge : (i.apply (.mergeQuery q)).query.held? filed =
        (q.held? filed).or (i.query.held? filed) := ValueMap.held?_merge i.query q filed
    rw [hmerge]
    cases h : q.held? filed <;> simp [queryGiven?, queryGain?, h]
  | setQueryValue key value =>
    rw [apply_setQueryValue]
    by_cases hkey : key = ""
    · simp [queryGiven?, queryGain?, hkey]
    · by_cases h : filed = key <;>
        simp [queryGiven?, queryGain?, hkey, h, ValueMap.insert, ValueMap.held?_set, KeyCase.file]
  | addQuery q => exact ValueMap.held?_extend i.query q filed
  | addQueryValue key value =>
    rw [apply_addQueryValue]
    by_cases hkey : key = ""
    · simp [queryGiven?, queryGain?, hkey]
    · by_cases h : filed = key <;>
        simp [queryGiven?, queryGain?, hkey, h, ValueMap.add, ValueMap.held?_append, KeyCase.file]
  | _ => simp [apply, queryGiven?, queryGain?]

/-! ## One entry, through a list -/

section

variable (held : CallInfo → Option (List String)) {given : CallOption → Option (Option (List String))}
  {gain : CallOption → Option (List String)}
  (hstep : ∀ i o, held (i.apply o) = follow ((given o).getD (held i)) (gain o))
  {options : List CallOption}

include hstep

/-- Where nothing is put behind, an entry is as the last option that settles it has it. -/
theorem held_foldl_of_no_gain (hgain : ∀ o ∈ options, gain o = none) (i : CallInfo) :
    held (options.foldl apply i) = ((options.filterMap given).getLast?).getD (held i) := by
  induction options using List.reverseRecOn with
  | nil => rfl
  | append_singleton options o ih =>
    have hlast : gain o = none := hgain o (by simp)
    have hearlier := ih fun o' ho' => hgain o' (by simp [ho'])
    rw [List.foldl_append, List.foldl_cons, List.foldl_nil, hstep, hlast, hearlier,
      List.filterMap_append]
    -- the last option settles the entry or leaves it as those before it have it
    cases h : given o with
    | none => simp [h]
    | some settled => simp [h]

/-- Where nothing is settled, what a list puts behind an entry is what it leaves of itself. -/
theorem held_foldl_of_no_given (hempty : held empty = none) (hgiven : ∀ o ∈ options, given o = none)
    (i : CallInfo) : held (options.foldl apply i) = follow (held i) (held (ofOptions options)) := by
  induction options using List.reverseRecOn with
  | nil => simp [ofOptions, hempty]
  | append_singleton options o ih =>
    have hlast : given o = none := hgiven o (by simp)
    have hearlier := ih fun o' ho' => hgiven o' (by simp [ho'])
    rw [List.foldl_append, List.foldl_cons, List.foldl_nil, ofOptions_concat, hstep, hstep, hlast,
      hearlier]
    exact ValueMap.follow_assoc _ _ _

theorem held_repeated_of_no_gain (hgain : ∀ o ∈ options, gain o = none) :
    held (ofOptions (options ++ options)) = held (ofOptions options) := by
  have htwice : ∀ o ∈ options ++ options, gain o = none := by simpa using hgain
  unfold ofOptions
  rw [held_foldl_of_no_gain held hstep htwice, held_foldl_of_no_gain held hstep hgain,
    List.filterMap_append, List.getLast?_append, Option.or_self]

theorem held_repeated_of_no_given (hempty : held empty = none)
    (hgiven : ∀ o ∈ options, given o = none) :
    held (ofOptions (options ++ options)) =
      follow (held (ofOptions options)) (held (ofOptions options)) := by
  rw [ofOptions_append]
  exact held_foldl_of_no_given held hstep hempty hgiven _

end

/-! ## The whole of it -/

/-- A field that holds a single thing is after two rounds as after one. -/
theorem getLast?_filterMap_repeated {α : Type} (given : CallOption → Option α)
    (options : List CallOption) :
    ((options ++ options).filterMap given).getLast? = (options.filterMap given).getLast? := by
  rw [List.filterMap_append, List.getLast?_append, Option.or_self]

theorem getLast?_filterMap_of_none {α : Type} {given : CallOption → Option α}
    {options : List CallOption} (h : ∀ o ∈ options, given o = none) :
    (options.filterMap given).getLast? = none := by
  rw [List.filterMap_eq_nil_iff.mpr h, List.getLast?_nil]

/-- A list of options none of which adds is made once and for all. -/
theorem ofOptions_repeated_of_sets {options : List CallOption} (h : ∀ o ∈ options, o.adds = false) :
    ofOptions (options ++ options) = ofOptions options := by
  have hheaders : (ofOptions (options ++ options)).headers = (ofOptions options).headers := by
    refine ValueMap.ext_held? fun filed => ?_
    exact held_repeated_of_no_gain (fun i => i.headers.held? filed)
      (fun i o => held?_headers_apply i o filed) fun o ho => (gains_nothing_of_sets (h o ho) filed).1
  have hquery : (ofOptions (options ++ options)).query = (ofOptions options).query := by
    refine ValueMap.ext_held? fun filed => ?_
    exact held_repeated_of_no_gain (fun i => i.query.held? filed)
      (fun i o => held?_query_apply i o filed) fun o ho => (gains_nothing_of_sets (h o ho) filed).2
  have honce := means_ofOptions options
  have htwice := means_ofOptions (options ++ options)
  apply CallInfo.ext
  case headers => exact hheaders
  case query => exact hquery
  case responseNotParse =>
    rw [Bool.eq_iff_iff, htwice.responseNotParse, honce.responseNotParse, List.mem_append, or_self]
  case timeout => rw [htwice.timeout, honce.timeout, getLast?_filterMap_repeated]
  case url => rw [htwice.url, honce.url, getLast?_filterMap_repeated]
  case process => rw [htwice.process, honce.process, getLast?_filterMap_repeated]
  case data => rw [htwice.data, honce.data, getLast?_filterMap_repeated]
  case endpoint => rw [htwice.endpoint, honce.endpoint, getLast?_filterMap_repeated]
  case stages => rw [htwice.stages, honce.stages, getLast?_filterMap_repeated]

/-- Options that add, and nothing else, fill the two maps and nothing else. -/
theorem ofOptions_of_adds {options : List CallOption} (h : ∀ o ∈ options, o.adds = true) :
    ofOptions options =
      { empty with headers := (ofOptions options).headers, query := (ofOptions options).query } := by
  have hmeans := means_ofOptions options
  have hsettles : ∀ o ∈ options, o.SettlesNothing := fun o ho => settlesNothing_of_adds (h o ho)
  apply CallInfo.ext
  case headers => rfl
  case query => rfl
  case responseNotParse =>
    have hnot : CallOption.responseNotParse ∉ options := fun hmem =>
      (hsettles _ hmem).responseNotParse rfl
    rw [Bool.eq_iff_iff, hmeans.responseNotParse]
    simpa [empty] using hnot
  case timeout =>
    exact hmeans.timeout.trans (getLast?_filterMap_of_none fun o ho => (hsettles o ho).timeout)
  case url => exact hmeans.url.trans (getLast?_filterMap_of_none fun o ho => (hsettles o ho).url)
  case process =>
    exact hmeans.process.trans (getLast?_filterMap_of_none fun o ho => (hsettles o ho).process)
  case data => exact hmeans.data.trans (getLast?_filterMap_of_none fun o ho => (hsettles o ho).data)
  case endpoint =>
    exact hmeans.endpoint.trans (getLast?_filterMap_of_none fun o ho => (hsettles o ho).endpoint)
  case stages =>
    exact hmeans.stages.trans (getLast?_filterMap_of_none fun o ho => (hsettles o ho).stages)

/-- A list of options that all add gives, made a second time, every value a second time. -/
theorem ofOptions_repeated_of_adds {options : List CallOption} (h : ∀ o ∈ options, o.adds = true) :
    ofOptions (options ++ options) =
      { empty with
        headers := (ofOptions options).headers.doubled
        query := (ofOptions options).query.doubled } := by
  have htwice : ∀ o ∈ options ++ options, o.adds = true := by simpa using h
  have hheaders : (ofOptions (options ++ options)).headers = (ofOptions options).headers.doubled := by
    refine ValueMap.ext_held? fun filed => ?_
    rw [ValueMap.held?_doubled]
    exact held_repeated_of_no_given (fun i => i.headers.held? filed)
      (fun i o => held?_headers_apply i o filed) (ValueMap.held?_empty filed)
      fun o ho => (settlesNothing_of_adds (h o ho)).header filed
  have hquery : (ofOptions (options ++ options)).query = (ofOptions options).query.doubled := by
    refine ValueMap.ext_held? fun filed => ?_
    rw [ValueMap.held?_doubled]
    exact held_repeated_of_no_given (fun i => i.query.held? filed)
      (fun i o => held?_query_apply i o filed) (ValueMap.held?_empty filed)
      fun o ho => (settlesNothing_of_adds (h o ho)).query filed
  rw [ofOptions_of_adds htwice, hheaders, hquery]

/-- A list of options none of which adds may be made twice as well as once.  One of which every option adds
gives, made twice, each header and each query key its values and then the same values again, under the same
keys, and nothing else. -/
theorem ofOptions_repeated (options : List CallOption) :
    ((∀ o ∈ options, o.adds = false) → ofOptions (options ++ options) = ofOptions options) ∧
      ((∀ o ∈ options, o.adds = true) →
        ofOptions (options ++ options) =
            { empty with
              headers := (ofOptions options).headers.doubled
              query := (ofOptions options).query.doubled } ∧
          (∀ key, (ofOptions (options ++ options)).headers.getAll key =
            (ofOptions options).headers.getAll key ++ (ofOptions options).headers.getAll key) ∧
          (∀ key, (ofOptions (options ++ options)).query.getAll key =
            (ofOptions options).query.getAll key ++ (ofOptions options).query.getAll key) ∧
          (ofOptions (options ++ options)).headers.keys = (ofOptions options).headers.keys ∧
          (ofOptions (options ++ options)).query.keys = (ofOptions options).query.keys) := by
  refine ⟨ofOptions_repeated_of_sets, fun h => ?_⟩
  rw [ofOptions_repeated_of_adds h]
  exact ⟨rfl, ValueMap.getAll_doubled _, ValueMap.getAll_doubled _, ValueMap.keys_doubled _,
    ValueMap.keys_doubled _⟩

/-- A header set in two spellings and replaced with all the others in between is as the last option has it,
however often the list is made; an accepted type that is added is there twice. -/
theorem ofOptions_repeated_tenant :
    (ofOptions
        ([setHeader "X-Tenant" ["acme"], setHeaders (.ofPairs [("Accept", "*/*")]),
            setHeader "x-tenant" ["globex"], setQueryValue "page" "2"] ++
          [setHeader "X-Tenant" ["acme"], setHeaders (.ofPairs [("Accept", "*/*")]),
            setHeader "x-tenant" ["globex"], setQueryValue "page" "2"])).headers.getAll "X-Tenant" =
        ["globex"] ∧
      (ofOptions
        ([addHeader "Accept" ["text/html"], addHeaders (.ofPairs [("accept", "*/*")])] ++
          [addHeader "Accept" ["text/html"],
            addHeaders (.ofPairs [("accept", "*/*")])])).headers.getAll "Accept" =
        ["text/html", "*/*", "text/html", "*/*"] := by
  constructor
  · obtain ⟨hsets, -⟩ := ofOptions_repeated
      [setHeader "X-Tenant" ["acme"], setHeaders (.ofPairs [("Accept", "*/*")]),
        setHeader "x-tenant" ["globex"], setQueryValue "page" "2"]
    rw [hsets (by simp [adds])]
    decide
  · obtain ⟨-, hadds⟩ := ofOptions_repeated
      [addHeader "Accept" ["text/html"], addHeaders (.ofPairs [("accept", "*/*")])]
    obtain ⟨-, hheaders, -⟩ := hadds (by simp [adds])
    rw [hheaders]
    decide

end CallInfo

end CallChain
