import CallChain.Data.MapPool
import CallChain.Proofs.Data.ValueChange
import CallChain.Proofs.Data.ValueMap
import CallChain.Proofs.Text.ByteOrder
import Mathlib.Data.List.Nodup

/-!
# Maps through every history

Whatever a program does to its maps, a key stands in them in the form it is filed under: the operations that
take a key file it, and those that take over another map find its keys filed.  So a key stands once, and how
an argument is spelled shows nowhere.  What a key holds is told by the changes that the steps make to it
(`MapOp.change`), and whether it is there by the last step that says so (`MapOp.settles?`).
-/

set_option autoImplicit false

namespace CallChain

@[simp] theorem KeyCase.file_file (c : KeyCase) (key : String) : c.file (c.file key) = c.file key := by
  cases c with
  | folded => exact Text.lower_lower key
  | exact => rfl

/-- A text whose capitals are made small has none. -/
theorem Text.not_capital_of_lower {s : String} (h : Text.lower s = s) :
    ∀ ch ∈ s.toList, ¬(0x41 ≤ ch.toNat ∧ ch.toNat ≤ 0x5A) := by
  intro ch hch hcapital
  have hsame : s.toList.map Text.lowerChar = s.toList.map id := by
    rw [List.map_id]
    have := congrArg String.toList h
    rwa [Text.lower, String.toList_ofList] at this
  have hlower : Text.lowerChar ch = ch := List.map_inj_left.mp hsame ch hch
  have hvalid : (ch.toNat + 0x20).isValidChar := .inl (by omega)
  rw [Text.lowerChar, if_pos hcapital, Char.ofNat, dif_pos hvalid] at hlower
  have hnat : ch.toNat + 0x20 = ch.toNat := congrArg Char.toNat hlower
  omega

namespace ValueMap

variable {c : KeyCase}

/-! ## Filed keys stay filed -/

theorem isSome_held?_iff {m : ValueMap c} {filed : String} :
    (m.held? filed).isSome ↔ filed ∈ m.keys := by
  rw [← not_iff_not, Bool.not_eq_true, Option.isSome_eq_false_iff, Option.isNone_iff_eq_none]
  exact SortedMap.lookupIn_eq_none_iff

theorem filed_iff {m : ValueMap c} : m.Filed ↔ ∀ filed, (m.held? filed).isSome → c.file filed = filed := by
  simp only [isSome_held?_iff, keys, SortedMap.keys, List.forall_mem_map, Filed]

theorem filed_empty : (empty : ValueMap c).Filed := fun _ h => by cases h

theorem Filed.set {m : ValueMap c} (h : m.Filed) (key : String) (values : List String) :
    (m.set key values).Filed := by
  rw [filed_iff] at h ⊢
  intro filed
  rw [held?_set]
  split
  next heq =>
    intro _
    rw [heq, KeyCase.file_file]
  next => exact h filed

theorem Filed.append {m : ValueMap c} (h : m.Filed) (key : String) (values : List String) :
    (m.append key values).Filed := by
  rw [filed_iff] at h ⊢
  intro filed
  rw [held?_append]
  split
  next heq =>
    intro _
    rw [heq, KeyCase.file_file]
  next =>
    rw [follow_none_right]
    exact h filed

theorem Filed.merge {m other : ValueMap c} (h : m.Filed) (hother : other.Filed) : (m.merge other).Filed := by
  rw [filed_iff] at h hother ⊢
  intro filed
  rw [held?_merge, Option.isSome_or, Bool.or_eq_true]
  exact fun hor => hor.elim (hother filed) (h filed)

theorem Filed.extend {m other : ValueMap c} (h : m.Filed) (hother : other.Filed) :
    (m.extend other).Filed := by
  rw [filed_iff] at h hother ⊢
  intro filed
  rw [held?_extend, isSome_follow, Bool.or_eq_true]
  exact fun hor => hor.elim (h filed) (hother filed)

theorem Filed.erase {m : ValueMap c} (h : m.Filed) (key : String) : (m.erase key).Filed :=
  fun e he => h e (List.mem_filter.mp he).1

/-- A key with values stands once in a map with filed keys. -/
theorem filter_eq_singleton {m : ValueMap c} (h : m.Filed) {key : String}
    {values : List String} (hvalues : m.getAll key = values) (hne : values ≠ []) :
    m.entries.entries.filter (fun e => c.file e.1 == c.file key) = [(c.file key, values)] := by
  have hkeys := SortedMap.nodup_of_keysIncrease m.entries.increasing
  have hmem : (c.file key, values) ∈ m.entries.entries := by
    refine (SortedMap.lookupIn_eq_some_iff hkeys).mp ?_
    rw [getAll_eq_held?] at hvalues
    show m.held? (c.file key) = some values
    cases hheld : m.held? (c.file key) with
    | none =>
      rw [hheld] at hvalues
      exact absurd hvalues.symm hne
    | some held =>
      rw [hheld] at hvalues
      exact congrArg some hvalues
  refine List.perm_singleton.mp ((List.perm_ext_iff_of_nodup ((List.Nodup.of_map Prod.fst hkeys).filter _)
    (List.nodup_singleton _)).mpr fun e => ?_)
  rw [List.mem_filter, List.mem_singleton, beq_iff_eq]
  constructor
  · rintro ⟨he, hfile⟩
    have hkey : e.1 = c.file key := (h e he).symm.trans hfile
    have hheld := getAll_of_mem h he
    rw [hkey, getAll, KeyCase.file_file] at hheld
    exact Prod.ext hkey (hheld.symm.trans hvalues)
  · rintro rfl
    exact ⟨hmem, KeyCase.file_file c key⟩

theorem filed_ofPairs (pairs : List (String × String)) : (ofPairs pairs : ValueMap c).Filed := by
  induction pairs using List.reverseRecOn with
  | nil => exact filed_empty
  | append_singleton pairs e ih =>
    rw [ofPairs, List.foldl_append]
    exact ih.append e.1 [e.2]

/-- The keys of a map are in the order of their bytes. -/
theorem keys_increase (m : ValueMap c) : (m.keys.map Bytes.ofText).Pairwise (· < ·) := by
  rw [List.pairwise_map, keys, SortedMap.keys, List.pairwise_map]
  exact m.entries.increasing.imp fun h => (before_iff_bytes_lt _ _).mp h

theorem nodup_keys (m : ValueMap c) : m.keys.Nodup :=
  SortedMap.nodup_of_keysIncrease m.entries.increasing

/-! ## What is there, and what it holds -/

theorem contains_set (m : ValueMap c) (key key' : String) (values : List String) :
    (m.set key values).contains key' = if c.file key = c.file key' then true else m.contains key' := by
  rw [contains_eq_held?, held?_file_set, apply_ite Option.isSome]
  rfl

theorem contains_append (m : ValueMap c) (key key' : String) (values : List String) :
    (m.append key values).contains key' =
      if c.file key = c.file key' then true else m.contains key' := by
  rw [contains_eq_held?, held?_file_append, isSome_follow, ← contains_eq_held?]
  split <;> simp

theorem contains_merge (m other : ValueMap c) (key : String) :
    (m.merge other).contains key = if other.contains key then true else m.contains key := by
  rw [contains_eq_held?, held?_merge, Option.isSome_or, ← contains_eq_held?, ← contains_eq_held?]
  cases other.contains key <;> rfl

theorem contains_extend (m other : ValueMap c) (key : String) :
    (m.extend other).contains key = if other.contains key then true else m.contains key := by
  rw [contains_eq_held?, held?_extend, isSome_follow, ← contains_eq_held?, ← contains_eq_held?]
  cases other.contains key <;> simp

theorem contains_erase (m : ValueMap c) (key key' : String) :
    (m.erase key).contains key' = if c.file key = c.file key' then false else m.contains key' := by
  rw [contains_eq_held?, held?_file_erase, apply_ite Option.isSome]
  rfl

theorem getAll_erase (m : ValueMap c) (key key' : String) :
    (m.erase key).getAll key' = if c.file key = c.file key' then [] else m.getAll key' := by
  rw [getAll_eq_held?, held?_file_erase, apply_ite (Option.getD · [])]
  rfl

theorem getAll_ofPairs (pairs : List (String × String)) (key : String) :
    (ofPairs pairs : ValueMap c).getAll key =
      (pairs.filter fun e => c.file e.1 = c.file key).map Prod.snd := by
  induction pairs using List.reverseRecOn with
  | nil => rfl
  | append_singleton pairs e ih =>
    rw [ofPairs, List.foldl_append, List.filter_append, List.map_append, ← ih]
    refine (getAll_append _ e.1 key [e.2]).trans ?_
    by_cases h : c.file e.1 = c.file key <;> simp [h, ofPairs]

theorem contains_ofPairs (pairs : List (String × String)) (key : String) :
    (ofPairs pairs : ValueMap c).contains key = pairs.any fun e => c.file e.1 = c.file key := by
  induction pairs using List.reverseRecOn with
  | nil => rfl
  | append_singleton pairs e ih =>
    rw [ofPairs, List.foldl_append, List.any_append, ← ih]
    refine (contains_append _ e.1 key [e.2]).trans ?_
    by_cases h : c.file e.1 = c.file key <;> simp [h, ofPairs]

/-! ## How an argument is spelled -/

theorem set_file (m : ValueMap c) (key : String) (values : List String) :
    m.set (c.file key) values = m.set key values := by
  rw [set, set, KeyCase.file_file]

theorem append_file (m : ValueMap c) (key : String) (values : List String) :
    m.append (c.file key) values = m.append key values := by
  rw [append, append, KeyCase.file_file]

theorem erase_file (m : ValueMap c) (key : String) : m.erase (c.file key) = m.erase key := by
  rw [erase, erase, KeyCase.file_file]

theorem removed?_file (m : ValueMap c) (key : String) : m.removed? (c.file key) = m.removed? key := by
  rw [removed?, removed?, KeyCase.file_file]

theorem getAll_file (m : ValueMap c) (key : String) : m.getAll (c.file key) = m.getAll key := by
  rw [getAll, getAll, KeyCase.file_file]

theorem contains_file (m : ValueMap c) (key : String) : m.contains (c.file key) = m.contains key := by
  rw [contains, contains, KeyCase.file_file]

theorem ofPairs_file (pairs : List (String × String)) :
    (ofPairs (pairs.map fun e => (c.file e.1, e.2)) : ValueMap c) = ofPairs pairs := by
  rw [ofPairs, ofPairs, List.foldl_map]
  exact List.foldl_ext _ _ _ fun m e _ => append_file m e.1 [e.2]

end ValueMap

/-! ## One operation -/

namespace MapOp

variable {c : KeyCase}

/-- The operation with every key in the form it is filed under. -/
def filed (c : KeyCase) : MapOp → MapOp
  | .collect pairs => .collect (pairs.map fun e => (c.file e.1, e.2))
  | .set key values => .set (c.file key) values
  | .insert key value => .insert (c.file key) value
  | .add key value => .add (c.file key) value
  | .append key values => .append (c.file key) values
  | .remove key => .remove (c.file key)
  | .get key => .get (c.file key)
  | .getAll key => .getAll (c.file key)
  | .contains key => .contains (c.file key)
  | op => op

/-- What an operation does to the values of a key. -/
def change (p : MapPool c) (key : String) : MapOp → ValueChange
  | .new => .replace []
  | .collect pairs => .replace ((pairs.filter fun e => c.file e.1 = c.file key).map Prod.snd)
  | .set k values => if c.file k = c.file key then .replace values else .keep
  | .insert k value => if c.file k = c.file key then .replace [value] else .keep
  | .add k value => if c.file k = c.file key then .add [value] else .keep
  | .append k values => if c.file k = c.file key then .add values else .keep
  | .merge other => if (p other).contains key then .replace ((p other).getAll key) else .keep
  | .extend other => .add ((p other).getAll key)
  | .remove k => if c.file k = c.file key then .replace [] else .keep
  | .get _ | .getAll _ | .contains _ => .keep

/-- Whether a key is there after an operation, where the operation settles it. -/
def settles? (p : MapPool c) (key : String) : MapOp → Option Bool
  | .new => some false
  | .collect pairs => some (pairs.any fun e => c.file e.1 = c.file key)
  | .set k _ | .insert k _ | .add k _ | .append k _ =>
    if c.file k = c.file key then some true else none
  | .merge other | .extend other => if (p other).contains key then some true else none
  | .remove k => if c.file k = c.file key then some false else none
  | .get _ | .getAll _ | .contains _ => none

end MapOp

namespace MapPool

variable {c : KeyCase} (p : MapPool c) (m : ValueMap c) (op : MapOp)

theorem getAll_changed (key : String) :
    (p.changed m op).getAll key = (op.change p key).apply (m.getAll key) := by
  cases op with
  | new => rfl
  | collect pairs => exact ValueMap.getAll_ofPairs pairs key
  | set k values =>
    refine (ValueMap.getAll_set m k key values).trans ?_
    by_cases h : c.file k = c.file key <;> simp [MapOp.change, h]
  | insert k value =>
    refine (ValueMap.getAll_set m k key [value]).trans ?_
    by_cases h : c.file k = c.file key <;> simp [MapOp.change, h]
  | add k value =>
    refine (ValueMap.getAll_append m k key [value]).trans ?_
    by_cases h : c.file k = c.file key <;> simp [MapOp.change, h]
  | append k values =>
    refine (ValueMap.getAll_append m k key values).trans ?_
    by_cases h : c.file k = c.file key <;> simp [MapOp.change, h]
  | merge other =>
    refine (ValueMap.getAll_merge m (p other) key).trans ?_
    by_cases h : (p other).contains key = true <;> simp [MapOp.change, h]
  | extend other => exact ValueMap.getAll_extend m (p other) key
  | remove k =>
    refine (ValueMap.getAll_erase m k key).trans ?_
    by_cases h : c.file k = c.file key <;> simp [MapOp.change, h]
  | get k | getAll k | contains k => exact (ValueChange.apply_keep _).symm

theorem contains_changed (key : String) :
    (p.changed m op).contains key = (op.settles? p key).getD (m.contains key) := by
  cases op with
  | new => rfl
  | collect pairs => exact ValueMap.contains_ofPairs pairs key
  | set k values =>
    refine (ValueMap.contains_set m k key values).trans ?_
    by_cases h : c.file k = c.file key <;> simp [MapOp.settles?, h]
  | insert k value =>
    refine (ValueMap.contains_set m k key [value]).trans ?_
    by_cases h : c.file k = c.file key <;> simp [MapOp.settles?, h]
  | add k value =>
    refine (ValueMap.contains_append m k key [value]).trans ?_
    by_cases h : c.file k = c.file key <;> simp [MapOp.settles?, h]
  | append k values =>
    refine (ValueMap.contains_append m k key values).trans ?_
    by_cases h : c.file k = c.file key <;> simp [MapOp.settles?, h]
  | merge other =>
    refine (ValueMap.contains_merge m (p other) key).trans ?_
    by_cases h : (p other).contains key = true <;> simp [MapOp.settles?, h]
  | extend other =>
    refine (ValueMap.contains_extend m (p other) key).trans ?_
    by_cases h : (p other).contains key = true <;> simp [MapOp.settles?, h]
  | remove k =>
    refine (ValueMap.contains_erase m k key).trans ?_
    by_cases h : c.file k = c.file key <;> simp [MapOp.settles?, h]
  | get k | getAll k | contains k => rfl

variable {p m} in
theorem filed_changed (hm : m.Filed) (hp : ∀ n, (p n).Filed) : (p.changed m op).Filed := by
  cases op with
  | new => exact ValueMap.filed_empty
  | collect pairs => exact ValueMap.filed_ofPairs pairs
  | set k values => exact hm.set k values
  | insert k value => exact hm.set k [value]
  | add k value => exact hm.append k [value]
  | append k values => exact hm.append k values
  | merge other => exact hm.merge (hp other)
  | extend other => exact hm.extend (hp other)
  | remove k => exact hm.erase k
  | get k | getAll k | contains k => exact hm

/-- How the keys of an operation are spelled makes no difference to the map. -/
theorem changed_filed : p.changed m (op.filed c) = p.changed m op := by
  cases op with
  | collect pairs => exact ValueMap.ofPairs_file pairs
  | set k values => exact ValueMap.set_file m k values
  | insert k value => exact ValueMap.set_file m k [value]
  | add k value => exact ValueMap.append_file m k [value]
  | append k values => exact ValueMap.append_file m k values
  | remove k => exact ValueMap.erase_file m k
  | new | merge other | extend other | get k | getAll k | contains k => rfl

theorem answer_filed : answer m (op.filed c) = answer m op := by
  cases op with
  | remove k => exact congrArg MapAnswer.removed (ValueMap.removed?_file m k)
  | get k => exact congrArg (fun values => MapAnswer.first values.head?) (ValueMap.getAll_file m k)
  | getAll k => exact congrArg MapAnswer.all (ValueMap.getAll_file m k)
  | contains k => exact congrArg MapAnswer.present (ValueMap.contains_file m k)
  | new | collect pairs | set k values | insert k value | add k value | append k values | merge other
  | extend other => rfl

end MapPool

/-! ## One step -/

namespace MapStep

variable {c : KeyCase}

def filed (c : KeyCase) (s : MapStep) : MapStep := { s with op := s.op.filed c }

/-- What a step does to the values of a key of a map. -/
def change (p : MapPool c) (n : Nat) (key : String) (s : MapStep) : ValueChange :=
  if n = s.map then s.op.change p key else .keep

/-- Whether a key of a map is there after a step, where the step settles it. -/
def settles? (p : MapPool c) (n : Nat) (key : String) (s : MapStep) : Option Bool :=
  if n = s.map then s.op.settles? p key else none

end MapStep

namespace MapPool

variable {c : KeyCase}

theorem getAll_perform (p : MapPool c) (s : MapStep) (n : Nat) (key : String) :
    (p.perform s n).getAll key = (s.change p n key).apply ((p n).getAll key) := by
  unfold perform MapStep.change
  split
  next => exact getAll_changed p (p n) s.op key
  next => exact (ValueChange.apply_keep _).symm

theorem contains_perform (p : MapPool c) (s : MapStep) (n : Nat) (key : String) :
    (p.perform s n).contains key = (s.settles? p n key).getD ((p n).contains key) := by
  unfold perform MapStep.settles?
  split
  next => exact contains_changed p (p n) s.op key
  next => rfl

theorem filed_perform {p : MapPool c} (hp : ∀ n, (p n).Filed) (s : MapStep) (n : Nat) :
    (p.perform s n).Filed := by
  unfold perform
  split
  next => exact filed_changed s.op (hp n) hp
  next => exact hp n

theorem perform_filed (p : MapPool c) (s : MapStep) : p.perform (s.filed c) = p.perform s := by
  funext n
  show (if n = s.map then p.changed (p n) (s.op.filed c) else p n) = _
  rw [changed_filed]
  rfl

/-! ## A history -/

/-- What the steps do to the values of a key of a map, each in its turn. -/
def changes (n : Nat) (key : String) : MapPool c → List MapStep → List ValueChange
  | _, [] => []
  | p, s :: rest => s.change p n key :: changes n key (p.perform s) rest

/-- What the steps settle about a key of a map being there. -/
def settlings (n : Nat) (key : String) : MapPool c → List MapStep → List Bool
  | _, [] => []
  | p, s :: rest => (s.settles? p n key).toList ++ settlings n key (p.perform s) rest

theorem getAll_performAll (p : MapPool c) (steps : List MapStep) (n : Nat) (key : String) :
    (p.performAll steps n).getAll key =
      (changes n key p steps).foldl ValueChange.apply ((p n).getAll key) := by
  -- What a step changes depends on the other maps at its time, so the pool varies with the steps.
  induction steps generalizing p with
  | nil => rfl
  | cons s rest ih =>
    show ((p.perform s).performAll rest n).getAll key = _
    rw [ih, getAll_perform]
    rfl

theorem contains_performAll (p : MapPool c) (steps : List MapStep) (n : Nat) (key : String) :
    (p.performAll steps n).contains key =
      (settlings n key p steps).getLast?.getD ((p n).contains key) := by
  induction steps generalizing p with
  | nil => rfl
  | cons s rest ih =>
    show ((p.perform s).performAll rest n).contains key = _
    rw [ih, contains_perform, settlings, List.getLast?_append]
    cases s.settles? p n key <;> cases (settlings n key (p.perform s) rest).getLast? <;> rfl

theorem filed_performAll {p : MapPool c} (hp : ∀ n, (p n).Filed) (steps : List MapStep) (n : Nat) :
    (p.performAll steps n).Filed := by
  induction steps generalizing p with
  | nil => exact hp n
  | cons s rest ih => exact ih fun n => filed_perform hp s n

theorem performAll_filed (p : MapPool c) (steps : List MapStep) :
    p.performAll (steps.map (MapStep.filed c)) = p.performAll steps := by
  rw [performAll, List.foldl_map]
  exact List.foldl_ext _ _ p fun p s _ => perform_filed p s

theorem answers_filed (p : MapPool c) (steps : List MapStep) :
    p.answers (steps.map (MapStep.filed c)) = p.answers steps := by
  induction steps generalizing p with
  | nil => rfl
  | cons s rest ih =>
    rw [List.map_cons, answers, answers, perform_filed, ih]
    exact congrArg (· :: _) (answer_filed (p s.map) s.op)

/-- The maps of a program after steps. -/
def after (c : KeyCase) (steps : List MapStep) : MapPool c := empty.performAll steps

/-- What holds of the maps of a program after any steps. -/
structure Told (c : KeyCase) (steps : List MapStep) : Prop where
  /-- Every key stands in the form it is filed under. -/
  filed : ∀ n, ∀ key ∈ (after c steps n).keys, c.file key = key
  unique : ∀ n, (after c steps n).keys.Nodup
  ordered : ∀ n, ((after c steps n).keys.map Bytes.ofText).Pairwise (· < ·)
  /-- A key stands there if it was not there at first and the last step to settle it says that it is. -/
  listed : ∀ n key, c.file key ∈ (after c steps n).keys ↔
    (settlings n key (empty : MapPool c) steps).getLast? = some true
  /-- With a key stand the values it is asked for. -/
  entries : ∀ n, (after c steps n).entries.entries =
    (after c steps n).keys.map fun key => (key, (after c steps n).getAll key)
  /-- These are the values of the last replacement, followed by what was added since. -/
  values : ∀ n key, ValueChange.Leaves (changes n key (empty : MapPool c) steps)
    ((after c steps n).getAll key)
  /-- How keys are spelled changes neither the maps nor an answer. -/
  recased : ∀ steps', steps'.map (MapStep.filed c) = steps.map (MapStep.filed c) →
    after c steps' = after c steps ∧
      (empty : MapPool c).answers steps' = (empty : MapPool c).answers steps

theorem told (c : KeyCase) (steps : List MapStep) : Told c steps where
  filed n := by
    rw [ValueMap.keys, SortedMap.keys, List.forall_mem_map]
    exact filed_performAll (fun _ => ValueMap.filed_empty) steps n
  unique n := ValueMap.nodup_keys _
  ordered n := ValueMap.keys_increase _
  listed n key := by
    rw [← ValueMap.isSome_held?_iff, ← ValueMap.contains_eq_held?, after, contains_performAll]
    cases (settlings n key (empty : MapPool c) steps).getLast? with
    | none => simp [empty, ValueMap.contains_eq_held?]
    | some b => simp
  entries n := ValueMap.entries_eq_map_keys
    (filed_performAll (fun _ => ValueMap.filed_empty) steps n)
  values n key := ValueChange.leaves_iff.mpr (getAll_performAll empty steps n key).symm
  recased steps' h := by
    constructor
    · rw [after, ← performAll_filed, h, performAll_filed, after]
    · rw [← answers_filed, h, answers_filed]

end MapPool

end CallChain
