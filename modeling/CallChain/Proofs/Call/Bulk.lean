import CallChain.Client.Request
import CallChain.Proofs.Call.Options

/-!
# Whole maps, one key at a time

An option that takes a whole map has a sibling that takes one key.  The siblings, given the keys of the map
in turn, do what the option does, whatever was there before.  The one key they differ in is the empty key of
a query, which the options for one key pass over and those for a map keep: a sequence of options for one key
comes to the map without its empty key.
-/

set_option autoImplicit false

namespace CallChain

namespace ValueMap

variable {c : KeyCase}

/-- Several values put behind those of a key are put there one by one. -/
theorem foldl_add (m : ValueMap c) (key : String) {values : List String} (h : values ≠ []) :
    values.foldl (fun m v => m.add key v) m = m.append key values := by
  induction values using List.reverseRecOn with
  | nil => exact absurd rfl h
  | append_singleton values v ih =>
    rw [List.foldl_append]
    by_cases hvalues : values = []
    · subst hvalues
      rfl
    · rw [ih hvalues]
      exact appendFiled_appendFiled m (c.file key) values [v]

/-- Pairs taken in turn come to their keys taken in turn, if the values of one key do. -/
theorem foldl_pairs {step : ValueMap c → String × String → ValueMap c}
    {whole : ValueMap c → String × List String → ValueMap c} {q : Query}
    (h : ∀ m, ∀ e ∈ q.entries.entries,
      (e.2.map fun v => (e.1, v)).foldl step m = if e.1 ≠ "" then whole m e else m)
    (m : ValueMap c) :
    q.pairs.foldl step m = (q.erase "").entries.entries.foldl whole m := by
  have hkept : (q.erase "").entries.entries = q.entries.entries.filter fun e => e.1 != "" := rfl
  -- The empty key is left out on the right, and on the left its pairs change nothing.
  rw [hkept, List.foldl_filter, pairs, List.foldl_flatMap]
  refine List.foldl_ext _ _ m fun m' e he => ?_
  rw [h m' e he]
  simp

end ValueMap

namespace CallOption

/-- Each value of a query set for its key. -/
def setEachQuery (q : Query) : List CallOption := q.pairs.map fun p => .setQueryValue p.1 p.2

/-- Each value of a query added to its key. -/
def addEachQuery (q : Query) : List CallOption := q.pairs.map fun p => .addQueryValue p.1 p.2

/-- The values of each header added to it. -/
def addEachHeader (h : Headers) : List CallOption := h.keys.map fun key => .addHeader key (h.getAll key)

end CallOption

namespace CallInfo

open CallOption

/-- Options that change the query only, one after the other. -/
theorem foldl_apply_query {α : Type} {option : α → CallOption} {change : Query → α → Query}
    (h : ∀ (i : CallInfo) x, i.apply (option x) = { i with query := change i.query x }) (xs : List α)
    (i : CallInfo) : (xs.map option).foldl apply i = { i with query := xs.foldl change i.query } := by
  induction xs generalizing i with
  | nil => rfl
  | cons x rest ih => rw [List.map_cons, List.foldl_cons, List.foldl_cons, ih, h]

theorem foldl_setQueryValue (i : CallInfo) (pairs : List (String × String)) :
    (pairs.map fun p => CallOption.setQueryValue p.1 p.2).foldl apply i =
      { i with query := pairs.foldl (fun m p => if p.1 = "" then m else m.insert p.1 p.2) i.query } :=
  foldl_apply_query (fun i p => apply_setQueryValue i p.1 p.2) pairs i

theorem foldl_addQueryValue (i : CallInfo) (pairs : List (String × String)) :
    (pairs.map fun p => CallOption.addQueryValue p.1 p.2).foldl apply i =
      { i with query := pairs.foldl (fun m p => if p.1 = "" then m else m.add p.1 p.2) i.query } :=
  foldl_apply_query (fun i p => apply_addQueryValue i p.1 p.2) pairs i

/-- Setting the value of each key is taking over the map, but for an empty key. -/
theorem foldl_setEachQuery (i : CallInfo) {q : Query}
    (hq : ∀ key ∈ q.keys, ∃ value, q.getAll key = [value]) :
    (setEachQuery q).foldl apply i = i.apply (.mergeQuery (q.erase "")) := by
  have hpairs (m : Query) :
      q.pairs.foldl (fun m p => if p.1 = "" then m else m.insert p.1 p.2) m = m.merge (q.erase "") := by
    rw [ValueMap.merge_eq_foldl_set m (ValueMap.filed_exact _)]
    refine ValueMap.foldl_pairs (fun m' e he => ?_) m
    obtain ⟨value, hvalue⟩ := hq e.1 (List.mem_map_of_mem he)
    rw [ValueMap.getAll_of_mem (ValueMap.filed_exact q) he] at hvalue
    by_cases hkey : e.1 = ""
    · simp [hvalue, hkey]
    · simp [hvalue, hkey, ValueMap.insert]
  rw [setEachQuery, foldl_setQueryValue, hpairs]
  rfl

/-- Adding each value to its key is adding the map, but for an empty key. -/
theorem foldl_addEachQuery (i : CallInfo) {q : Query} (hq : ∀ key ∈ q.keys, q.getAll key ≠ []) :
    (addEachQuery q).foldl apply i = i.apply (.addQuery (q.erase "")) := by
  have hpairs (m : Query) :
      q.pairs.foldl (fun m p => if p.1 = "" then m else m.add p.1 p.2) m = m.extend (q.erase "") := by
    rw [ValueMap.extend_eq_foldl_append m (ValueMap.filed_exact _)]
    refine ValueMap.foldl_pairs (fun m' e he => ?_) m
    have hvalues : e.2 ≠ [] := by
      rw [← ValueMap.getAll_of_mem (ValueMap.filed_exact q) he]
      exact hq e.1 (List.mem_map_of_mem he)
    rw [List.foldl_map]
    by_cases hkey : e.1 = ""
    · simp [hkey]
    · simpa [hkey] using ValueMap.foldl_add m' e.1 hvalues
  rw [addEachQuery, foldl_addQueryValue, hpairs]
  rfl

theorem foldl_addHeader (i : CallInfo) (entries : List (String × List String)) :
    (entries.map fun e => CallOption.addHeader e.1 e.2).foldl apply i =
      { i with headers := entries.foldl (fun m e => m.append e.1 e.2) i.headers } := by
  induction entries generalizing i with
  | nil => rfl
  | cons e rest ih =>
    rw [List.map_cons, List.foldl_cons, ih]
    rfl

theorem foldl_addEachHeader (i : CallInfo) {h : Headers} (hfiled : h.Filed) :
    (addEachHeader h).foldl apply i = i.apply (.addHeaders h) := by
  have hoptions : addEachHeader h = h.entries.entries.map fun e => .addHeader e.1 e.2 := by
    rw [addEachHeader, ValueMap.entries_eq_map_keys hfiled, List.map_map]
    rfl
  rw [hoptions, foldl_addHeader, ← ValueMap.extend_eq_foldl_append i.headers hfiled]
  rfl

end CallInfo

/-! ## The fields of an object -/

namespace Request

/-- The fields of an object of texts. -/
def textFields (fields : List (String × String)) : List (String × Json) :=
  fields.map fun f => (f.1, .string f.2)

theorem queryOf_concat (fields : List (String × String)) (f : String × String) :
    queryOf (textFields (fields ++ [f])) = (queryOf (textFields fields)).insert f.1 f.2 := by
  unfold queryOf textFields
  rw [List.map_append, List.foldl_append]
  rfl

theorem entries_queryOf (fields : List (String × String)) :
    (queryOf (textFields fields)).entries = .ofList (fields.map fun f => (f.1, [f.2])) := by
  induction fields using List.reverseRecOn with
  | nil => rfl
  | append_singleton fields f ih =>
    rw [queryOf_concat, List.map_append, SortedMap.ofList, List.foldl_append, ← SortedMap.ofList, ← ih]
    rfl

/-- The fields of an object may stand in any order. -/
theorem queryOf_perm {fields fields' : List (String × String)} (h : fields.Perm fields')
    (hnames : (fields.map Prod.fst).Nodup) :
    queryOf (textFields fields) = queryOf (textFields fields') := by
  have hperm : (fields.map fun f => (f.1, [f.2])).Perm (fields'.map fun f => (f.1, [f.2])) := h.map _
  have hkeys : ((fields.map fun f => (f.1, [f.2])).map Prod.fst).Nodup := by
    simpa [List.map_map, Function.comp_def] using hnames
  refine ValueMap.ext_held? fun name => ?_
  rw [ValueMap.held?, ValueMap.held?, entries_queryOf, entries_queryOf, SortedMap.get?_ofList hkeys,
    SortedMap.get?_ofList ((hperm.map Prod.fst).nodup hkeys), SortedMap.lookupIn_perm hperm hkeys]

/-- Fields inserted one by one are the fields of the object taken over, but for an empty name. -/
theorem foldl_insert_fields (m : Query) (fields : List (String × String)) :
    fields.foldl (fun m f => if f.1 = "" then m else m.insert f.1 f.2) m =
      m.merge (queryOf (textFields (fields.filter fun f => f.1 ≠ ""))) := by
  induction fields using List.reverseRecOn with
  | nil => rfl
  | append_singleton fields f ih =>
    rw [List.foldl_append, ih, List.filter_append]
    by_cases hname : f.1 = ""
    · simp [hname]
    · have hkept : [f].filter (fun f => f.1 ≠ "") = [f] := by simp [hname]
      rw [hkept, queryOf_concat, ValueMap.insert, ValueMap.merge_set]
      simp [hname, ValueMap.insert]

end Request

/-- Setting the fields of an object one by one is taking them over at once, but for an empty name. -/
theorem CallInfo.foldl_setFields (i : CallInfo) (fields : List (String × String)) :
    (fields.map fun f => CallOption.setQueryValue f.1 f.2).foldl apply i =
      i.apply (.mergeQuery (Request.queryOf (Request.textFields (fields.filter fun f => f.1 ≠ "")))) := by
  rw [foldl_setQueryValue, Request.foldl_insert_fields]
  rfl

end CallChain
