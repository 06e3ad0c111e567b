import CallChain.Data.ValueMap
import CallChain.Proofs.Data.SortedMap
import Mathlib.Data.List.Basic

/-!
# What a key holds

Each operation on a map of values is known by what stands under a key after it: `held?` answers for a key in
its filed form, and a map is known by these answers (`ext_held?`).  What the readers say of a key as given
follows.  Nothing is asked of how the keys of a map are spelled; that no key stands twice is what makes
taking over a whole map the same as taking over one key.
-/

set_option autoImplicit false

namespace CallChain.ValueMap

variable {c : KeyCase}

/-! ## Under a filed key -/

/-- What stands under a key in its filed form; a key that is present may hold no value. -/
def held? (m : ValueMap c) (filed : String) : Option (List String) := m.entries.get? filed

/-- What stands under a key with more behind it, where either may be absent. -/
def follow : Option (List String) → Option (List String) → Option (List String) :=
  Option.merge (· ++ ·)

@[simp] theorem follow_none_right (held : Option (List String)) : follow held none = held := by
  cases held <;> rfl

theorem follow_assoc (a b d : Option (List String)) :
    follow (follow a b) d = follow a (follow b d) := by
  cases a <;> cases b <;> cases d <;> simp [follow]

theorem getD_follow (a b : Option (List String)) :
    (follow a b).getD [] = a.getD [] ++ b.getD [] := by
  cases a <;> cases b <;> simp [follow]

theorem isSome_follow (a b : Option (List String)) : (follow a b).isSome = (a.isSome || b.isSome) := by
  cases a <;> cases b <;> rfl

/-- Two maps that hold the same are the same map. -/
theorem ext_held? {m n : ValueMap c} (h : ∀ filed, m.held? filed = n.held? filed) : m = n := by
  cases m
  cases n
  exact congrArg ValueMap.mk (SortedMap.ext_get? h)

@[simp] theorem held?_empty (filed : String) : (empty : ValueMap c).held? filed = none := rfl

theorem held?_set (m : ValueMap c) (key filed : String) (values : List String) :
    (m.set key values).held? filed = if filed = c.file key then some values else m.held? filed :=
  SortedMap.get?_insert m.entries (c.file key) filed values

theorem held?_appendFiled (m : ValueMap c) (key filed : String) (values : List String) :
    (m.appendFiled key values).held? filed =
      follow (m.held? filed) (if filed = key then some values else none) := by
  unfold held? appendFiled
  rw [SortedMap.get?_insert]
  by_cases h : filed = key
  · subst h
    cases m.entries.get? filed <;> simp [follow]
  · simp [h]

theorem held?_append (m : ValueMap c) (key filed : String) (values : List String) :
    (m.append key values).held? filed =
      follow (m.held? filed) (if filed = c.file key then some values else none) :=
  held?_appendFiled m (c.file key) filed values

/-- A key that another map has holds what it holds there. -/
theorem held?_merge (m other : ValueMap c) (filed : String) :
    (m.merge other).held? filed = (other.held? filed).or (m.held? filed) :=
  SortedMap.get?_foldl_insert other.entries.entries
    (SortedMap.nodup_of_keysIncrease other.entries.increasing) m.entries filed

theorem held?_foldl_appendFiled (entries : List (String × List String))
    (hkeys : (entries.map Prod.fst).Nodup) (m : ValueMap c) (filed : String) :
    (entries.foldl (fun m e => m.appendFiled e.1 e.2) m).held? filed =
      follow (m.held? filed) (SortedMap.lookupIn filed entries) := by
  induction entries generalizing m with
  | nil => exact (follow_none_right _).symm
  | cons e rest ih =>
    obtain ⟨hfresh, hrest⟩ := List.nodup_cons.mp hkeys
    rw [List.foldl_cons, ih hrest, held?_appendFiled, SortedMap.lookupIn]
    -- The first entry is the only one that can stand under its key.
    by_cases h : filed = e.1
    · have hnone : SortedMap.lookupIn filed rest = none := by
        rw [SortedMap.lookupIn_eq_none_iff, h]
        exact hfresh
      rw [if_pos h, if_pos h, hnone, follow_none_right]
    · rw [if_neg h, if_neg h, follow_none_right]

/-- A key holds what it holds in the other map behind its own. -/
theorem held?_extend (m other : ValueMap c) (filed : String) :
    (m.extend other).held? filed = follow (m.held? filed) (other.held? filed) :=
  held?_foldl_appendFiled other.entries.entries
    (SortedMap.nodup_of_keysIncrease other.entries.increasing) m filed

theorem held?_erase (m : ValueMap c) (key filed : String) :
    (m.erase key).held? filed = if filed = c.file key then none else m.held? filed :=
  SortedMap.get?_erase m.entries (c.file key) filed

/-! ## Under a key as given -/

theorem getAll_eq_held? (m : ValueMap c) (key : String) :
    m.getAll key = (m.held? (c.file key)).getD [] := rfl

theorem contains_eq_held? (m : ValueMap c) (key : String) :
    m.contains key = (m.held? (c.file key)).isSome := rfl

@[simp] theorem getAll_empty (key : String) : (empty : ValueMap c).getAll key = [] := rfl

theorem held?_file_set (m : ValueMap c) (key key' : String) (values : List String) :
    (m.set key values).held? (c.file key') =
      if c.file key = c.file key' then some values else m.held? (c.file key') := by
  rw [held?_set]
  exact if_congr eq_comm rfl rfl

theorem held?_file_append (m : ValueMap c) (key key' : String) (values : List String) :
    (m.append key values).held? (c.file key') =
      follow (m.held? (c.file key')) (if c.file key = c.file key' then some values else none) := by
  rw [held?_append]
  exact congrArg (follow _) (if_congr eq_comm rfl rfl)

theorem held?_file_erase (m : ValueMap c) (key key' : String) :
    (m.erase key).held? (c.file key') =
      if c.file key = c.file key' then none else m.held? (c.file key') := by
  rw [held?_erase]
  exact if_congr eq_comm rfl rfl

theorem getAll_set (m : ValueMap c) (key key' : String) (values : List String) :
    (m.set key values).getAll key' = if c.file key = c.file key' then values else m.getAll key' := by
  rw [getAll_eq_held?, held?_file_set, apply_ite (Option.getD · [])]
  rfl

theorem getAll_append (m : ValueMap c) (key key' : String) (values : List String) :
    (m.append key values).getAll key' =
      m.getAll key' ++ if c.file key = c.file key' then values else [] := by
  rw [getAll_eq_held?, held?_file_append, getD_follow, apply_ite (Option.getD · [])]
  rfl

theorem getAll_merge (m other : ValueMap c) (key : String) :
    (m.merge other).getAll key = if other.contains key then other.getAll key else m.getAll key := by
  rw [getAll_eq_held?, held?_merge, contains_eq_held?, getAll_eq_held?, getAll_eq_held?]
  cases other.held? (c.file key) with
  | none => simp
  | some values => simp

theorem getAll_extend (m other : ValueMap c) (key : String) :
    (m.extend other).getAll key = m.getAll key ++ other.getAll key := by
  rw [getAll_eq_held?, held?_extend, getD_follow]
  rfl

/-! ## Whole maps -/

theorem erase_of_absent {m : ValueMap c} {key : String} (h : m.contains key = false) :
    m.erase key = m := by
  have hnone : m.held? (c.file key) = none := by
    rw [contains_eq_held?] at h
    simpa using h
  refine ext_held? fun filed => ?_
  rw [held?_erase]
  split
  next hfiled => rw [hfiled, hnone]
  next => rfl

/-- Taking over a map in which a key was set is setting it after taking the map over. -/
theorem merge_set (m other : ValueMap c) (key : String) (values : List String) :
    m.merge (other.set key values) = (m.merge other).set key values := by
  refine ext_held? fun filed => ?_
  rw [held?_merge, held?_set, held?_set, held?_merge]
  split <;> simp

/-- Values put behind those of a key twice are put there at once. -/
theorem appendFiled_appendFiled (m : ValueMap c) (key : String) (values values' : List String) :
    (m.appendFiled key values).appendFiled key values' = m.appendFiled key (values ++ values') := by
  refine ext_held? fun filed => ?_
  rw [held?_appendFiled, held?_appendFiled, held?_appendFiled, follow_assoc]
  split <;> rfl

/-! ## Maps with all keys filed -/

/-- Whether every key of a map stands in the form it is filed under. -/
def Filed (m : ValueMap c) : Prop := ∀ e ∈ m.entries.entries, c.file e.1 = e.1

theorem filed_exact (q : Query) : q.Filed := fun _ _ => rfl

/-- A key that is there leads to the values it stands with. -/
theorem getAll_of_mem {m : ValueMap c} (h : m.Filed) {e : String × List String}
    (he : e ∈ m.entries.entries) : m.getAll e.1 = e.2 := by
  have hheld : m.held? e.1 = some e.2 :=
    (SortedMap.lookupIn_eq_some_iff (SortedMap.nodup_of_keysIncrease m.entries.increasing)).mpr he
  rw [getAll, h e he]
  exact congrArg (·.getD []) hheld

/-- A map is the list of its keys, each with its values. -/
theorem entries_eq_map_keys {m : ValueMap c} (h : m.Filed) :
    m.entries.entries = m.keys.map fun key => (key, m.getAll key) := by
  have hself : ∀ e ∈ m.entries.entries, (e.1, m.getAll e.1) = e := by
    intro e he
    rw [getAll_of_mem h he]
  rw [keys, SortedMap.keys, List.map_map]
  exact (List.map_id' _).symm.trans (List.map_congr_left fun e he => (hself e he).symm)

theorem foldl_set {entries : List (String × List String)} (h : ∀ e ∈ entries, c.file e.1 = e.1)
    (m : ValueMap c) :
    entries.foldl (fun m e => m.set e.1 e.2) m =
      ⟨entries.foldl (fun e x => e.insert x.1 x.2) m.entries⟩ := by
  induction entries generalizing m with
  | nil => rfl
  | cons e rest ih =>
    obtain ⟨hfiled, hrest⟩ := List.forall_mem_cons.mp h
    rw [List.foldl_cons, List.foldl_cons, ih hrest, set, hfiled]

theorem merge_eq_foldl_set (m : ValueMap c) {other : ValueMap c} (h : other.Filed) :
    m.merge other = other.entries.entries.foldl (fun m e => m.set e.1 e.2) m :=
  (foldl_set h m).symm

theorem extend_eq_foldl_append (m : ValueMap c) {other : ValueMap c} (h : other.Filed) :
    m.extend other = other.entries.entries.foldl (fun m e => m.append e.1 e.2) m := by
  refine List.foldl_ext _ _ m fun m' e he => ?_
  rw [append, h e he]

end CallChain.ValueMap
